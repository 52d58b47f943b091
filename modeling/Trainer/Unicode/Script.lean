import Trainer.CharSet

/-!
# Scripts

The names of the scripts and their code points, as of version 16 of the standard.
-/

namespace Trainer
namespace Unicode

/-- The scripts: their names, and their ranges as gaps and lengths in hexadecimal. -/
def scripts : List (List String × String) := [
  (["Adlam", "Adlm"],
    "1E900 4C 4 A 4 2"),
  (["Ahom", "Ahom"],
    "11700 1B 2 F 4 17"),
  (["Anatolian_Hieroglyphs", "Hluw"],
    "14400 247"),
  (["Arabic", "Arab"],
    "600 5 1 6 1 E 1 3 1 20 1 A B 1A 1 6C 1 22 50 30 F0 1F 1 2 5 4B 1 1D F250 73 10 16B 2 50
      2 36 7 1 20 10 70 5 1 87 F63 1F 43 3 37 4 DF00 4 1 1B 1 2 1 1 2 1 1 A 1 4 1 1 1 1 6 1 4
      1 1 1 1 1 1 3 1 2 1 1 2 1 1 1 1 1 1 1 1 1 1 2 1 1 2 4 1 7 1 4 1 4 1 1 1 A 1 11 5 3 1 5 1
      11 34 2"),
  (["Armenian", "Armn"],
    "531 26 2 32 2 3 F583 5"),
  (["Avestan", "Avst"],
    "10B00 36 3 7"),
  (["Balinese", "Bali"],
    "1B00 4D 1 32"),
  (["Bamum", "Bamu"],
    "A6A0 58 C108 239"),
  (["Bassa_Vah", "Bass"],
    "16AD0 1E 2 6"),
  (["Batak", "Batk"],
    "1BC0 34 8 4"),
  (["Bengali", "Beng"],
    "980 4 1 8 2 2 2 16 1 7 1 1 3 4 2 9 2 2 2 4 8 1 4 2 1 5 2 19"),
  (["Bhaiksuki", "Bhks"],
    "11C00 9 1 2D 1 E A 1D"),
  (["Bopomofo", "Bopo"],
    "2EA 2 2E19 2B 70 20"),
  (["Brahmi", "Brah"],
    "11000 4E 4 24 9 1"),
  (["Braille", "Brai"],
    "2800 100"),
  (["Buginese", "Bugi"],
    "1A00 1C 2 2"),
  (["Buhid", "Buhd"],
    "1740 14"),
  (["Canadian_Aboriginal", "Cans"],
    "1400 280 230 46 101BA 10"),
  (["Carian", "Cari"],
    "102A0 31"),
  (["Caucasian_Albanian", "Aghb"],
    "10530 34 B 1"),
  (["Chakma", "Cakm"],
    "11100 35 1 12"),
  (["Cham", "Cham"],
    "AA00 37 9 E 2 A 2 4"),
  (["Cherokee", "Cher"],
    "13A0 56 2 6 9772 50"),
  (["Chorasmian", "Chrs"],
    "10FB0 1C"),
  (["Common", "Zyyy"],
    "0 41 1A 6 1A 2F 1 F 1 5 17 1 1F 1 1C1 27 5 5 2 14 74 1 9 1 6 1 1 1 27D 1 6 1 E 1 3 1 20
      1 9C 1 204 1 81 2 4D9 1 195 4 122 1 5EF 3 47 2 CB 2 1 1 4CD 1 D 1 7 4 1 6 1 3 2 1 305 C
      2 57 1 B 3 B 1 F 11 21 3F 26 1 3 2 6 1 1B 1 11 29 3 4 29A 16 B 15 3A0 100 274 2 20 1 69
      200 5E 192 15 1 1 1 19 F 8 4 4 5B 2 3 1 5A 2 93 10 20 26 9 1 30 40 1F 51 2F 1 58 A8 19C0
      40 5900 22 66 3 A5 A F4 1 A0 1 18B 1 E 2 51D2 2 D0 A 16 23 1 13 1 4 93 1 1 20 1A 6 1A B
      A 1 2D 2 40 7 1 7 A 5 102 3 4 2D 3 9 50 D 33 2D E4 1B B9A4 4 F5C FA 6 1B4 9C 74 3C F6 A
      27 2 3E 3 11 8 2 7 1E 4 3D D5 14 C 14 C 57 9 19 87 55 1 47 1 2 2 1 2 2 2 4 1 C 1 1 1 7 1
      41 1 4 2 8 1 7 1 1C 1 4 1 5 1 1 3 7 1 154 2 124 2 32 1471 44 4C 3D 2C2 2C 4 64 C F 2 F 1
      F 1 25 A AE 38 1A 1 2 D 2C 4 9 7 2 E 6 9A 3D8 4 11 3 D 3 77 4 5F 6 C 4 1 F C 4 38 8 A 6
      28 8 1E 2 C 4 2 3E 154 C E 2 D 3 A 5 38 7 F 2 B 6 9 7 93 1 66 C0407 1 1E 60"),
  (["Coptic", "Copt", "Qaac"],
    "3E2 E 2890 74 5 7"),
  (["Cuneiform", "Xsux"],
    "12000 39A 66 6F 1 5 B C4"),
  (["Cypriot", "Cprt"],
    "10800 6 2 1 1 2C 1 2 3 1 2 1"),
  (["Cypro_Minoan", "Cpmn"],
    "12F90 63"),
  (["Cyrillic", "Cyrl"],
    "400 85 2 A9 1750 B A0 1 4C 1 1067 20 7840 60 578E 2 E200 3E 21 1"),
  (["Deseret", "Dsrt"],
    "10400 50"),
  (["Devanagari", "Deva"],
    "900 51 4 F 2 1A 9F60 20 7200 A"),
  (["Dives_Akuru", "Diak"],
    "11900 7 2 1 2 8 1 2 1 1E 1 2 2 C 9 A"),
  (["Dogra", "Dogr"],
    "11800 3C"),
  (["Duployan", "Dupl"],
    "1BC00 6B 5 D 3 9 7 A 2 4"),
  (["Egyptian_Hieroglyphs", "Egyp"],
    "13000 456 A F9B"),
  (["Elbasan", "Elba"],
    "10500 28"),
  (["Elymaic", "Elym"],
    "10FE0 17"),
  (["Ethiopic", "Ethi"],
    "1200 49 1 4 2 7 1 1 1 4 2 29 1 4 2 21 1 4 2 7 1 1 1 4 2 F 1 39 1 4 2 43 2 20 3 1A 19E6
      17 9 7 1 7 1 7 1 7 1 7 1 7 1 7 1 7 7D22 6 2 6 2 6 9 7 1 7 13CB1 7 1 4 1 2 1 F"),
  (["Garay", "Gara"],
    "10D40 26 3 1D 8 2"),
  (["Georgian", "Geor"],
    "10A0 26 1 1 5 1 2 2B 1 4 B90 2B 2 3 1040 26 1 1 5 1"),
  (["Glagolitic", "Glag"],
    "2C00 60 1B3A0 7 1 11 2 7 1 2 1 5"),
  (["Gothic", "Goth"],
    "10330 1B"),
  (["Grantha", "Gran"],
    "11300 4 1 8 2 2 2 16 1 7 1 2 1 5 2 9 2 2 2 3 2 1 6 1 5 7 2 7 3 5"),
  (["Greek", "Grek"],
    "370 4 1 3 2 4 1 1 4 1 1 1 1 3 1 1 1 14 1 3F E 10 1926 5 32 5 4 5 54 1 140 16 2 6 2 26 2
      6 2 8 1 1 1 1 1 1 1 1F 2 35 1 F 1 E 2 6 1 13 2 3 1 9 127 1 8A3E 1 55DA 4F 11 1 D05F 46"),
  (["Gujarati", "Gujr"],
    "A81 3 1 9 1 3 1 16 1 7 1 2 1 5 2 A 1 3 1 3 2 1 F 4 2 C 7 7"),
  (["Gunjala_Gondi", "Gong"],
    "11D60 6 1 2 1 25 1 2 1 6 7 A"),
  (["Gurmukhi", "Guru"],
    "A01 3 1 6 4 2 2 16 1 7 1 2 1 2 1 2 2 1 1 5 4 2 2 3 3 1 7 4 1 1 7 11"),
  (["Gurung_Khema", "Gukh"],
    "16100 3A"),
  (["Han", "Hani"],
    "2E80 1A 1 59 C D6 2F 1 1 1 19 9 E 4 3C4 19C0 40 5200 5900 16E 2 6A 7508 2 C 2 900E A6E0
      20 103A 6 DE 2 1682 E 1D31 F 26E 9A2 21E 5E2 134B 5 1060"),
  (["Hangul", "Hang"],
    "1100 100 1E2E 2 101 5E 71 1F 41 1F 76E1 1D 283 2BA4 C 17 4 31 27A4 1F 3 6 2 6 2 6 2 3"),
  (["Hanifi_Rohingya", "Rohg"],
    "10D00 28 8 A"),
  (["Hanunoo", "Hano"],
    "1720 15"),
  (["Hatran", "Hatr"],
    "108E0 13 1 2 5 5"),
  (["Hebrew", "Hebr"],
    "591 37 8 1B 4 6 F528 1A 1 5 1 1 1 2 1 2 1 A"),
  (["Hiragana", "Hira"],
    "3041 56 6 3 17F61 11F 12 1 1D 3 40AD 1"),
  (["Imperial_Aramaic", "Armi"],
    "10840 16 1 9"),
  (["Inherited", "Zinh", "Qaai"],
    "300 70 115 2 1C4 B 1A 1 2E0 4 115B 1F 201 3 1 D 1 7 4 1 6 1 3 2 C6 40 20C 2 C2 21 F39 4
      6B 2 CD65 10 10 E 3CF 1 E2 1 105A 1 BBC4 2E 2 17 220 3 11 8 2 7 1E 4 C2F52 F0"),
  (["Inscriptional_Pahlavi", "Phli"],
    "10B60 13 5 8"),
  (["Inscriptional_Parthian", "Prti"],
    "10B40 16 2 8"),
  (["Javanese", "Java"],
    "A980 4E 2 A 4 2"),
  (["Kaithi", "Kthi"],
    "11080 43 A 1"),
  (["Kannada", "Knda"],
    "C80 D 1 3 1 17 1 A 1 5 2 9 1 3 1 4 7 2 6 2 1 4 2 A 1 3"),
  (["Katakana", "Kana"],
    "30A1 5A 2 3 F0 10 D0 2F 1 58 CC0E A 1 2D B052 4 1 7 1 2 1 1 11F 3 32 1 E 4"),
  (["Kawi", "Kawi"],
    "11F00 11 1 29 3 1D"),
  (["Kayah_Li", "Kali"],
    "A900 2E 1 1"),
  (["Kharoshthi", "Khar"],
    "10A00 4 1 2 5 8 1 3 1 1D 2 3 4 A 7 9"),
  (["Khitan_Small_Script", "Kits"],
    "16FE4 1 1B1B 1D6 29 1"),
  (["Khmer", "Khmr"],
    "1780 5E 2 A 6 A 1E6 20"),
  (["Khojki", "Khoj"],
    "11200 12 1 2F"),
  (["Khudawadi", "Sind"],
    "112B0 3B 5 A"),
  (["Kirat_Rai", "Krai"],
    "16D40 3A"),
  (["Lao", "Laoo"],
    "E81 2 1 1 1 5 1 18 1 1 1 17 2 5 1 1 1 7 1 A 2 4"),
  (["Latin", "Latn"],
    "41 1A 6 1A 2F 1 F 1 5 17 1 1F 1 1C1 27 5 1A1B 26 6 31 5 4 5 D 1 46 41 100 171 1 D 1 10 D
      8D 2 6 1 1B 1 11 29 AD7 20 7AA2 66 3 43 2 2 1 1 1 8 15 E 330 2B 1 9 1 4 4F96 7 41A 1A 6
      1A 825 6 1 2A 1 9 D745 1F 6 6"),
  (["Lepcha", "Lepc"],
    "1C00 38 3 F 3 3"),
  (["Limbu", "Limb"],
    "1900 1F 1 C 4 C 4 1 3 C"),
  (["Linear_A", "Lina"],
    "10600 137 9 16 A 8"),
  (["Linear_B", "Linb"],
    "10000 C 1 1A 1 13 1 2 1 F 2 E 22 7B"),
  (["Lisu", "Lisu"],
    "A4D0 30 7AB0 1"),
  (["Lycian", "Lyci"],
    "10280 1D"),
  (["Lydian", "Lydi"],
    "10920 1A 5 1"),
  (["Mahajani", "Mahj"],
    "11150 27"),
  (["Makasar", "Maka"],
    "11EE0 19"),
  (["Malayalam", "Mlym"],
    "D00 D 1 3 1 33 1 3 1 6 4 10 2 1A"),
  (["Mandaic", "Mand"],
    "840 1C 2 1"),
  (["Manichaean", "Mani"],
    "10AC0 27 4 C"),
  (["Marchen", "Marc"],
    "11C70 20 2 16 1 E"),
  (["Masaram_Gondi", "Gonm"],
    "11D00 7 1 2 1 2C 3 1 1 2 1 9 8 A"),
  (["Medefaidrin", "Medf"],
    "16E40 5B"),
  (["Meetei_Mayek", "Mtei"],
    "AAE0 17 C9 2E 2 A"),
  (["Mende_Kikakui", "Mend"],
    "1E800 C5 2 10"),
  (["Meroitic_Cursive", "Merc"],
    "109A0 18 4 14 2 2E"),
  (["Meroitic_Hieroglyphs", "Mero"],
    "10980 20"),
  (["Miao", "Plrd"],
    "16F00 4B 4 39 7 11"),
  (["Modi", "Modi"],
    "11600 45 B A"),
  (["Mongolian", "Mong"],
    "1800 2 2 1 1 14 6 59 7 2B FDB5 D"),
  (["Mro", "Mroo"],
    "16A40 1F 1 A 4 2"),
  (["Multani", "Mult"],
    "11280 7 1 1 1 4 1 F 1 B"),
  (["Myanmar", "Mymr"],
    "1000 A0 9940 1F 61 20 6C50 14"),
  (["Nabataean", "Nbat"],
    "10880 1F 8 9"),
  (["Nag_Mundari", "Nagm"],
    "1E4D0 2A"),
  (["Nandinagari", "Nand"],
    "119A0 8 2 2E 2 B"),
  (["New_Tai_Lue", "Talu"],
    "1980 2C 4 1A 6 B 3 2"),
  (["Newa", "Newa"],
    "11400 5C 1 5"),
  (["Nko", "Nkoo"],
    "7C0 3B 2 3"),
  (["Nushu", "Nshu"],
    "16FE1 1 418E 18C"),
  (["Nyiakeng_Puachue_Hmong", "Hmnp"],
    "1E100 2D 3 E 2 A 4 2"),
  (["Ogham", "Ogam"],
    "1680 1D"),
  (["Ol_Chiki", "Olck"],
    "1C50 30"),
  (["Ol_Onal", "Onao"],
    "1E5D0 2B 4 1"),
  (["Old_Hungarian", "Hung"],
    "10C80 33 D 33 7 6"),
  (["Old_Italic", "Ital"],
    "10300 24 9 3"),
  (["Old_North_Arabian", "Narb"],
    "10A80 20"),
  (["Old_Permic", "Perm"],
    "10350 2B"),
  (["Old_Persian", "Xpeo"],
    "103A0 24 4 E"),
  (["Old_Sogdian", "Sogo"],
    "10F00 28"),
  (["Old_South_Arabian", "Sarb"],
    "10A60 20"),
  (["Old_Turkic", "Orkh"],
    "10C00 49"),
  (["Old_Uyghur", "Ougr"],
    "10F70 1A"),
  (["Oriya", "Orya"],
    "B01 3 1 8 2 2 2 16 1 7 1 2 1 5 2 9 2 2 2 3 7 3 4 2 1 5 2 12"),
  (["Osage", "Osge"],
    "104B0 24 4 24"),
  (["Osmanya", "Osma"],
    "10480 1E 2 A"),
  (["Pahawh_Hmong", "Hmng"],
    "16B00 46 A A 1 7 1 15 5 13"),
  (["Palmyrene", "Palm"],
    "10860 20"),
  (["Pau_Cin_Hau", "Pauc"],
    "11AC0 39"),
  (["Phags_Pa", "Phag"],
    "A840 38"),
  (["Phoenician", "Phnx"],
    "10900 1C 3 1"),
  (["Psalter_Pahlavi", "Phlp"],
    "10B80 12 7 4 C 7"),
  (["Rejang", "Rjng"],
    "A930 24 B 1"),
  (["Runic", "Runr"],
    "16A0 4B 3 B"),
  (["Samaritan", "Samr"],
    "800 2E 2 F"),
  (["Saurashtra", "Saur"],
    "A880 46 8 C"),
  (["Sharada", "Shrd"],
    "11180 60"),
  (["Shavian", "Shaw"],
    "10450 30"),
  (["Siddham", "Sidd"],
    "11580 36 2 26"),
  (["SignWriting", "Sgnw"],
    "1D800 28C F 5 1 F"),
  (["Sinhala", "Sinh"],
    "D81 3 1 12 3 18 1 9 1 1 2 7 3 1 4 6 1 1 1 8 6 A 2 3 103EC 14"),
  (["Sogdian", "Sogd"],
    "10F30 2A"),
  (["Sora_Sompeng", "Sora"],
    "110D0 19 7 A"),
  (["Soyombo", "Soyo"],
    "11A50 53"),
  (["Sundanese", "Sund"],
    "1B80 40 100 8"),
  (["Sunuwar", "Sunu"],
    "11BC0 22 E A"),
  (["Syloti_Nagri", "Sylo"],
    "A800 2D"),
  (["Syriac", "Syrc"],
    "700 E 1 3C 2 3 110 B"),
  (["Tagalog", "Tglg"],
    "1700 16 9 1"),
  (["Tagbanwa", "Tagb"],
    "1760 D 1 3 1 2"),
  (["Tai_Le", "Tale"],
    "1950 1E 2 5"),
  (["Tai_Tham", "Lana"],
    "1A20 3F 1 1D 2 B 6 A 6 E"),
  (["Tai_Viet", "Tavt"],
    "AA80 43 18 5"),
  (["Takri", "Takr"],
    "11680 3A 6 A"),
  (["Tamil", "Taml"],
    "B82 2 1 6 3 3 1 4 3 2 1 1 1 2 3 2 3 3 3 C 4 5 3 3 1 4 2 1 6 1 E 15 113C5 32 D 1"),
  (["Tangsa", "Tnsa"],
    "16A70 4F 1 A"),
  (["Tangut", "Tang"],
    "16FE0 1 1F 17F8 8 300 200 9"),
  (["Telugu", "Telu"],
    "C00 D 1 3 1 17 1 10 2 9 1 3 1 4 7 2 1 3 2 1 2 4 2 A 7 9"),
  (["Thaana", "Thaa"],
    "780 32"),
  (["Thai", "Thai"],
    "E01 3A 5 1C"),
  (["Tibetan", "Tibt"],
    "F00 48 1 24 4 27 1 24 1 F 1 7 4 2"),
  (["Tifinagh", "Tfng"],
    "2D30 38 7 2 E 1"),
  (["Tirhuta", "Tirh"],
    "11480 48 8 A"),
  (["Todhri", "Todr"],
    "105C0 34"),
  (["Toto", "Toto"],
    "1E290 1F"),
  (["Tulu_Tigalari", "Tutg"],
    "11380 A 1 1 2 1 1 26 1 A 1 1 2 1 1 4 1 A 1 2 8 2"),
  (["Ugaritic", "Ugar"],
    "10380 1E 1 1"),
  (["Vai", "Vaii"],
    "A500 12C"),
  (["Vithkuqi", "Vith"],
    "10570 B 1 F 1 7 1 2 1 B 1 F 1 7 1 2"),
  (["Wancho", "Wcho"],
    "1E2C0 3A 5 1"),
  (["Warang_Citi", "Wara"],
    "118A0 53 C 1"),
  (["Yezidi", "Yezi"],
    "10E80 2A 1 3 2 2"),
  (["Yi", "Yiii"],
    "A000 48D 3 37"),
  (["Zanabazar_Square", "Zanb"],
    "11A00 48")]

end Unicode
end Trainer
