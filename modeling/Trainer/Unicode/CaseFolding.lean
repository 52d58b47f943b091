import Trainer.CharSet

/-!
# Case folding

The pairs of characters that differ in case only, after the simple case folding of version 16 of
the standard.
-/

namespace Trainer
namespace Unicode

/-- Runs of pairs: the first character, the number of pairs, the step from one pair to the next and
the distance within a pair, in hexadecimal. -/
def caseRuns : String :=
  "41 1A 1 20 4B 1 1 20DF 53 1 1 12C 6B 1 1 20BF 73 1 1 10C B5 1 1 2E7 B5 1 1 307 C0 17 1
    20 C5 1 1 2066 D8 7 1 20 DF 1 1 1DBF E5 1 1 2046 FF 1 1 79 100 18 2 1 132 3 2 1 139 8 2
    1 14A 17 2 1 179 3 2 1 180 1 1 C3 181 1 1 D2 182 2 2 1 186 1 1 CE 187 1 1 1 189 2 1 CD
    18B 1 1 1 18E 1 1 4F 18F 1 1 CA 190 1 1 CB 191 1 1 1 193 1 1 CD 194 1 1 CF 195 1 1 61
    196 1 1 D3 197 1 1 D1 198 1 1 1 19A 1 1 A3 19B 1 1 A641 19C 1 1 D3 19D 1 1 D5 19E 1 1 82
    19F 1 1 D6 1A0 3 2 1 1A6 1 1 DA 1A7 1 1 1 1A9 1 1 DA 1AC 1 1 1 1AE 1 1 DA 1AF 1 1 1 1B1
    2 1 D9 1B3 2 2 1 1B7 1 1 DB 1B8 1 1 1 1BC 1 1 1 1BF 1 1 38 1C4 2 1 1 1C4 1 1 2 1C7 2 1 1
    1C7 1 1 2 1CA 2 1 1 1CA 1 1 2 1CD 8 2 1 1DE 9 2 1 1F1 2 1 1 1F1 1 1 2 1F4 1 1 1 1F8 14 2
    1 222 9 2 1 23A 1 1 2A2B 23B 1 1 1 23E 1 1 2A28 23F 2 1 2A3F 241 1 1 1 244 1 1 45 245 1
    1 47 246 5 2 1 250 1 1 2A1F 251 1 1 2A1C 252 1 1 2A1E 25C 1 1 A54F 261 1 1 A54B 264 1 1
    A567 265 1 1 A528 266 1 1 A544 26A 1 1 A544 26B 1 1 29F7 26C 1 1 A541 271 1 1 29FD 27D 1
    1 29E7 282 1 1 A543 287 1 1 A52A 29D 1 1 A515 29E 1 1 A512 345 1 1 54 345 1 1 74 345 1 1
    1C79 370 2 2 1 376 1 1 1 37B 3 1 82 37F 1 1 74 386 1 1 26 388 3 1 25 38C 1 1 40 38E 2 1
    3F 390 1 1 1C43 391 11 1 20 392 1 1 3E 395 1 1 60 398 1 1 39 398 1 1 5C 399 1 1 1C25 39A
    1 1 56 3A0 1 1 36 3A1 1 1 50 3A3 1 1 1F 3A3 9 1 20 3A6 1 1 2F 3A9 1 1 1D7D 3B0 1 1 1C33
    3B2 1 1 1E 3B5 1 1 40 3B8 1 1 19 3B8 1 1 3C 3B9 1 1 1C05 3BA 1 1 36 3C0 1 1 16 3C1 1 1
    30 3C2 1 1 1 3C6 1 1 F 3C9 1 1 1D5D 3CF 1 1 8 3D1 1 1 23 3D8 C 2 1 3F2 1 1 7 3F7 1 1 1
    3FA 1 1 1 400 10 1 50 410 20 1 20 412 1 1 186E 414 1 1 186D 41E 1 1 1864 421 2 1 1862
    422 1 1 1863 42A 1 1 185C 432 1 1 184E 434 1 1 184D 43E 1 1 1844 441 2 1 1842 442 1 1
    1843 44A 1 1 183C 460 11 2 1 462 1 1 1825 463 1 1 1824 48A 1B 2 1 4C0 1 1 F 4C1 7 2 1
    4D0 30 2 1 531 26 1 30 10A0 26 1 1C60 10C7 1 1 1C60 10CD 1 1 1C60 10D0 2B 1 BC0 10FD 3 1
    BC0 13A0 50 1 97D0 13F0 6 1 8 1C84 1 1 1 1C88 1 1 89C2 1C88 1 1 89C3 1C89 1 1 1 1D79 1 1
    8A04 1D7D 1 1 EE6 1D8E 1 1 8A38 1E00 4B 2 1 1E60 1 1 3B 1E61 1 1 3A 1EA0 30 2 1 1F00 8 1
    8 1F10 6 1 8 1F20 8 1 8 1F30 8 1 8 1F40 6 1 8 1F51 4 2 8 1F60 8 1 8 1F70 2 1 4A 1F72 4 1
    56 1F76 2 1 64 1F78 2 1 80 1F7A 2 1 70 1F7C 2 1 7E 1F80 8 1 8 1F90 8 1 8 1FA0 8 1 8 1FB0
    2 1 8 1FB3 1 1 9 1FC3 1 1 9 1FD0 2 1 8 1FE0 2 1 8 1FE5 1 1 7 1FF3 1 1 9 2132 1 1 1C 2160
    10 1 10 2183 1 1 1 24B6 1A 1 1A 2C00 30 1 30 2C60 1 1 1 2C67 3 2 1 2C72 1 1 1 2C75 1 1 1
    2C80 32 2 1 2CEB 2 2 1 2CF2 1 1 1 A640 17 2 1 A680 E 2 1 A722 7 2 1 A732 1F 2 1 A779 2 2
    1 A77E 5 2 1 A78B 1 1 1 A790 2 2 1 A794 1 1 30 A796 A 2 1 A7B3 1 1 3A0 A7B4 8 2 1 A7C7 2
    2 1 A7CC 1 1 1 A7D0 1 1 1 A7D6 3 2 1 A7F5 1 1 1 FB05 1 1 1 FF21 1A 1 20 10400 28 1 28
    104B0 24 1 28 10570 13 2 27 10571 5 2 27 1057D 7 2 27 1058D 3 2 27 10595 1 1 27 10C80 33
    1 40 10D50 16 1 20 118A0 20 1 20 16E40 20 1 20 1E900 22 1 22"

def expandCases : List String → List (Nat × Nat)
  | first :: count :: step :: distance :: rest =>
      let pairs := (List.range (CharSet.hexNumber count)).map fun i =>
        let c := CharSet.hexNumber first + i * CharSet.hexNumber step
        (c, c + CharSet.hexNumber distance)
      pairs ++ expandCases rest
  | _ => []

/-- The pairs of characters that differ in case only. -/
def casePairs : List (Nat × Nat) :=
  expandCases (CharSet.fields caseRuns)

end Unicode
end Trainer
