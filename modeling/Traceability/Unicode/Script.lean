/-
  Traceability.Unicode.Script — the script of a character, and the scripts that use it.

  Most scripts are used by their own characters alone; `scriptUsers` holds the tables of
  those that share characters with others.
-/

import Traceability.Unicode.Stretches

namespace Traceability.Unicode

/-- One table for each script. -/
def scripts : List Table := [
  ⟨["adlm", "adlam"],
    "1E900-4B 4-9 4-1"⟩,
  ⟨["aghb", "caucasianalbanian"],
    "10530-33 B"⟩,
  ⟨["ahom"],
    "11700-1A 2-E 4-16"⟩,
  ⟨["arab", "arabic"],
    "600-4 1-5 1-D 1-2 1-1F 1-9 B-19 1-6B 1-21 50-2F F0-1E 1-1 6-49 1-1C F250-72 10-16A 2-4F " ++
    "2-35 7 20-F 70-4 1-86 F63-1E 7E-2 DF00-3 1-1A 1-1 1 2 1-9 1-3 1 1 6 4 1 1 1-2 1-1 1 2 1 " ++
    "1 1 1 1-1 1 2-3 1-6 1-3 1-3 1 1-9 1-10 5-2 1-4 1-10 34-1"⟩,
  ⟨["armi", "imperialaramaic"],
    "10840-15 1-8"⟩,
  ⟨["armn", "armenian"],
    "531-25 2-31 2-2 F583-4"⟩,
  ⟨["avst", "avestan"],
    "10B00-35 3-6"⟩,
  ⟨["bali", "balinese"],
    "1B00-4C 3-2E"⟩,
  ⟨["bamu", "bamum"],
    "A6A0-57 C108-238"⟩,
  ⟨["bass", "bassavah"],
    "16AD0-1D 2-5"⟩,
  ⟨["batk", "batak"],
    "1BC0-33 8-3"⟩,
  ⟨["beng", "bengali"],
    "980-3 1-7 2-1 2-15 1-6 1 3-3 2-8 2-1 2-3 8 4-1 1-4 2-18"⟩,
  ⟨["bhks", "bhaiksuki"],
    "11C00-8 1-2C 1-D A-1C"⟩,
  ⟨["bopo", "bopomofo"],
    "2EA-1 2E19-2A 70-1F"⟩,
  ⟨["brah", "brahmi"],
    "11000-4D 4-23 9"⟩,
  ⟨["brai", "braille"],
    "2800-FF"⟩,
  ⟨["bugi", "buginese"],
    "1A00-1B 2-1"⟩,
  ⟨["buhd", "buhid"],
    "1740-13"⟩,
  ⟨["cakm", "chakma"],
    "11100-34 1-11"⟩,
  ⟨["cans", "canadianaboriginal"],
    "1400-27F 230-45 101BA-F"⟩,
  ⟨["cari", "carian"],
    "102A0-30"⟩,
  ⟨["cham"],
    "AA00-36 9-D 2-9 2-3"⟩,
  ⟨["cher", "cherokee"],
    "13A0-55 2-5 9772-4F"⟩,
  ⟨["chrs", "chorasmian"],
    "10FB0-1B"⟩,
  ⟨["copt", "coptic", "qaac"],
    "3E2-D 2890-73 5-6"⟩,
  ⟨["cpmn", "cyprominoan"],
    "12F90-62"⟩,
  ⟨["cprt", "cypriot"],
    "10800-5 2 1-2B 1-1 3 2"⟩,
  ⟨["cyrl", "cyrillic"],
    "400-84 2-A8 1750-8 A2 4C 1067-1F 7840-5F 578E-1 E200-3D 21"⟩,
  ⟨["deva", "devanagari"],
    "900-50 4-E 2-19 9F60-1F 7200-9"⟩,
  ⟨["diak", "divesakuru"],
    "11900-6 2 2-7 1-1 1-1D 1-1 2-B 9-9"⟩,
  ⟨["dogr", "dogra"],
    "11800-3B"⟩,
  ⟨["dsrt", "deseret"],
    "10400-4F"⟩,
  ⟨["dupl", "duployan"],
    "1BC00-6A 5-C 3-8 7-9 2-3"⟩,
  ⟨["egyp", "egyptianhieroglyphs"],
    "13000-455"⟩,
  ⟨["elba", "elbasan"],
    "10500-27"⟩,
  ⟨["elym", "elymaic"],
    "10FE0-16"⟩,
  ⟨["ethi", "ethiopic"],
    "1200-48 1-3 2-6 1 1-3 2-28 1-3 2-20 1-3 2-6 1 1-3 2-E 1-38 1-3 2-42 2-1F 3-19 19E6-16 " ++
    "9-6 1-6 1-6 1-6 1-6 1-6 1-6 1-6 7D22-5 2-5 2-5 9-6 1-6 13CB1-6 1-3 1-1 1-E"⟩,
  ⟨["geor", "georgian"],
    "10A0-25 1 5 2-2A 1-3 B90-2A 2-2 1040-25 1 5"⟩,
  ⟨["glag", "glagolitic"],
    "2C00-5F 1B3A0-6 1-10 2-6 1-1 1-4"⟩,
  ⟨["gong", "gunjalagondi"],
    "11D60-5 1-1 1-24 1-1 1-5 7-9"⟩,
  ⟨["gonm", "masaramgondi"],
    "11D00-6 1-1 1-2B 3 1-1 1-8 8-9"⟩,
  ⟨["goth", "gothic"],
    "10330-1A"⟩,
  ⟨["gran", "grantha"],
    "11300-3 1-7 2-1 2-15 1-6 1-1 1-4 2-8 2-1 2-2 2 6 5-6 2-6 3-4"⟩,
  ⟨["grek", "greek"],
    "370-3 1-2 2-3 1 4 1 1-2 1 1-13 1-3E E-F 1926-4 32-4 4-4 54 140-15 2-5 2-25 2-5 2-7 1 1 1 " ++
    "1-1E 2-34 1-E 1-D 2-5 1-12 2-2 1-8 127 8A3E 55DA-4E 11 D05F-45"⟩,
  ⟨["gujr", "gujarati"],
    "A81-2 1-8 1-2 1-15 1-6 1-1 1-4 2-9 1-2 1-2 2 F-3 2-B 7-6"⟩,
  ⟨["guru", "gurmukhi"],
    "A01-2 1-5 4-1 2-15 1-6 1-1 1-1 1-1 2 1-4 4-1 2-2 3 7-3 1 7-10"⟩,
  ⟨["hang", "hangul"],
    "1100-FF 1E2E-1 101-5D 71-1E 41-1E 76E1-1C 283-2BA3 C-16 4-30 27A4-1E 3-5 2-5 2-5 2-2"⟩,
  ⟨["hani", "han"],
    "2E80-19 1-58 C-D5 2F 1 19-8 E-3 3C4-19BF 40-51FF 5900-16D 2-69 7508-1 C-1 900E-A6DF " ++
    "20-1039 6-DD 2-1681 E-1D30 C1F-21D 5E2-134A 5-105F"⟩,
  ⟨["hano", "hanunoo"],
    "1720-14"⟩,
  ⟨["hatr", "hatran"],
    "108E0-12 1-1 5-4"⟩,
  ⟨["hebr", "hebrew"],
    "591-36 8-1A 4-5 F528-19 1-4 1 1-1 1-1 1-9"⟩,
  ⟨["hira", "hiragana"],
    "3041-55 6-2 17F61-11E 12 1D-2 40AD"⟩,
  ⟨["hluw", "anatolianhieroglyphs"],
    "14400-246"⟩,
  ⟨["hmng", "pahawhhmong"],
    "16B00-45 A-9 1-6 1-14 5-12"⟩,
  ⟨["hmnp", "nyiakengpuachuehmong"],
    "1E100-2C 3-D 2-9 4-1"⟩,
  ⟨["hung", "oldhungarian"],
    "10C80-32 D-32 7-5"⟩,
  ⟨["ital", "olditalic"],
    "10300-23 9-2"⟩,
  ⟨["java", "javanese"],
    "A980-4D 2-9 4-1"⟩,
  ⟨["kali", "kayahli"],
    "A900-2D 1"⟩,
  ⟨["kana", "katakana"],
    "30A1-59 2-2 F0-F D0-2E 1-57 CC0E-9 1-2C B052-3 1-6 1-1 1 11F-2 32 E-3"⟩,
  ⟨["kawi"],
    "11F00-10 1-28 3-1B"⟩,
  ⟨["khar", "kharoshthi"],
    "10A00-3 1-1 5-7 1-2 1-1C 2-2 4-9 7-8"⟩,
  ⟨["khmr", "khmer"],
    "1780-5D 2-9 6-9 1E6-1F"⟩,
  ⟨["khoj", "khojki"],
    "11200-11 1-2E"⟩,
  ⟨["kits", "khitansmallscript"],
    "16FE4 1B1B-1D5"⟩,
  ⟨["knda", "kannada"],
    "C80-C 1-2 1-16 1-9 1-4 2-8 1-2 1-3 7-1 6-1 1-3 2-9 1-2"⟩,
  ⟨["kthi", "kaithi"],
    "11080-42 A"⟩,
  ⟨["lana", "taitham"],
    "1A20-3E 1-1C 2-A 6-9 6-D"⟩,
  ⟨["laoo", "lao"],
    "E81-1 1 1-4 1-17 1 1-16 2-4 1 1-6 1-9 2-3"⟩,
  ⟨["latn", "latin"],
    "41-19 6-19 2F F 5-16 1-1E 1-1C0 27-4 1A1B-25 6-30 5-3 5-C 1-45 41-FF 171 D 10-C 8D-1 6 " ++
    "1B 11-28 AD7-1F 7AA2-65 3-3F 5-1 1 1-4 18-D 330-2A 1-8 1-3 4F96-6 41A-19 6-19 825-5 1-29 " ++
    "1-8 D745-1E 6-5"⟩,
  ⟨["lepc", "lepcha"],
    "1C00-37 3-E 3-2"⟩,
  ⟨["limb", "limbu"],
    "1900-1E 1-B 4-B 4 3-B"⟩,
  ⟨["lina", "lineara"],
    "10600-136 9-15 A-7"⟩,
  ⟨["linb", "linearb"],
    "10000-B 1-19 1-12 1-1 1-E 2-D 22-7A"⟩,
  ⟨["lisu"],
    "A4D0-2F 7AB0"⟩,
  ⟨["lyci", "lycian"],
    "10280-1C"⟩,
  ⟨["lydi", "lydian"],
    "10920-19 5"⟩,
  ⟨["mahj", "mahajani"],
    "11150-26"⟩,
  ⟨["maka", "makasar"],
    "11EE0-18"⟩,
  ⟨["mand", "mandaic"],
    "840-1B 2"⟩,
  ⟨["mani", "manichaean"],
    "10AC0-26 4-B"⟩,
  ⟨["marc", "marchen"],
    "11C70-1F 2-15 1-D"⟩,
  ⟨["medf", "medefaidrin"],
    "16E40-5A"⟩,
  ⟨["mend", "mendekikakui"],
    "1E800-C4 2-F"⟩,
  ⟨["merc", "meroiticcursive"],
    "109A0-17 4-13 2-2D"⟩,
  ⟨["mero", "meroitichieroglyphs"],
    "10980-1F"⟩,
  ⟨["mlym", "malayalam"],
    "D00-C 1-2 1-32 1-2 1-5 4-F 2-19"⟩,
  ⟨["modi"],
    "11600-44 B-9"⟩,
  ⟨["mong", "mongolian"],
    "1800-1 2 1-13 6-58 7-2A FDB5-C"⟩,
  ⟨["mroo", "mro"],
    "16A40-1E 1-9 4-1"⟩,
  ⟨["mtei", "meeteimayek"],
    "AAE0-16 C9-2D 2-9"⟩,
  ⟨["mult", "multani"],
    "11280-6 1 1-3 1-E 1-A"⟩,
  ⟨["mymr", "myanmar"],
    "1000-9F 9940-1E 61-1F"⟩,
  ⟨["nagm", "nagmundari"],
    "1E4D0-29"⟩,
  ⟨["nand", "nandinagari"],
    "119A0-7 2-2D 2-A"⟩,
  ⟨["narb", "oldnortharabian"],
    "10A80-1F"⟩,
  ⟨["nbat", "nabataean"],
    "10880-1E 8-8"⟩,
  ⟨["newa"],
    "11400-5B 1-4"⟩,
  ⟨["nkoo", "nko"],
    "7C0-3A 2-2"⟩,
  ⟨["nshu", "nushu"],
    "16FE1 418E-18B"⟩,
  ⟨["ogam", "ogham"],
    "1680-1C"⟩,
  ⟨["olck", "olchiki"],
    "1C50-2F"⟩,
  ⟨["orkh", "oldturkic"],
    "10C00-48"⟩,
  ⟨["orya", "oriya"],
    "B01-2 1-7 2-1 2-15 1-6 1-1 1-4 2-8 2-1 2-2 7-2 4-1 1-4 2-11"⟩,
  ⟨["osge", "osage"],
    "104B0-23 4-23"⟩,
  ⟨["osma", "osmanya"],
    "10480-1D 2-9"⟩,
  ⟨["ougr", "olduyghur"],
    "10F70-19"⟩,
  ⟨["palm", "palmyrene"],
    "10860-1F"⟩,
  ⟨["pauc", "paucinhau"],
    "11AC0-38"⟩,
  ⟨["perm", "oldpermic"],
    "10350-2A"⟩,
  ⟨["phag", "phagspa"],
    "A840-37"⟩,
  ⟨["phli", "inscriptionalpahlavi"],
    "10B60-12 5-7"⟩,
  ⟨["phlp", "psalterpahlavi"],
    "10B80-11 7-3 C-6"⟩,
  ⟨["phnx", "phoenician"],
    "10900-1B 3"⟩,
  ⟨["plrd", "miao"],
    "16F00-4A 4-38 7-10"⟩,
  ⟨["prti", "inscriptionalparthian"],
    "10B40-15 2-7"⟩,
  ⟨["rjng", "rejang"],
    "A930-23 B"⟩,
  ⟨["rohg", "hanifirohingya"],
    "10D00-27 8-9"⟩,
  ⟨["runr", "runic"],
    "16A0-4A 3-A"⟩,
  ⟨["samr", "samaritan"],
    "800-2D 2-E"⟩,
  ⟨["sarb", "oldsoutharabian"],
    "10A60-1F"⟩,
  ⟨["saur", "saurashtra"],
    "A880-45 8-B"⟩,
  ⟨["sgnw", "signwriting"],
    "1D800-28B F-4 1-E"⟩,
  ⟨["shaw", "shavian"],
    "10450-2F"⟩,
  ⟨["shrd", "sharada"],
    "11180-5F"⟩,
  ⟨["sidd", "siddham"],
    "11580-35 2-25"⟩,
  ⟨["sind", "khudawadi"],
    "112B0-3A 5-9"⟩,
  ⟨["sinh", "sinhala"],
    "D81-2 1-11 3-17 1-8 1 2-6 3 4-5 1 1-7 6-9 2-2 103EC-13"⟩,
  ⟨["sogd", "sogdian"],
    "10F30-29"⟩,
  ⟨["sogo", "oldsogdian"],
    "10F00-27"⟩,
  ⟨["sora", "sorasompeng"],
    "110D0-18 7-9"⟩,
  ⟨["soyo", "soyombo"],
    "11A50-52"⟩,
  ⟨["sund", "sundanese"],
    "1B80-3F 100-7"⟩,
  ⟨["sylo", "sylotinagri"],
    "A800-2C"⟩,
  ⟨["syrc", "syriac"],
    "700-D 1-3B 2-2 110-A"⟩,
  ⟨["tagb", "tagbanwa"],
    "1760-C 1-2 1-1"⟩,
  ⟨["takr", "takri"],
    "11680-39 6-9"⟩,
  ⟨["tale", "taile"],
    "1950-1D 2-4"⟩,
  ⟨["talu", "newtailue"],
    "1980-2B 4-19 6-A 3-1"⟩,
  ⟨["taml", "tamil"],
    "B82-1 1-5 3-2 1-3 3-1 1 1-1 3-1 3-2 3-B 4-4 3-2 1-3 2 6 E-14 113C5-31 D"⟩,
  ⟨["tang", "tangut"],
    "16FE0 1F-17F7 8-2FF 200-8"⟩,
  ⟨["tavt", "taiviet"],
    "AA80-42 18-4"⟩,
  ⟨["telu", "telugu"],
    "C00-C 1-2 1-16 1-F 2-8 1-2 1-3 7-1 1-2 2 2-3 2-9 7-8"⟩,
  ⟨["tfng", "tifinagh"],
    "2D30-37 7-1 E"⟩,
  ⟨["tglg", "tagalog"],
    "1700-15 9"⟩,
  ⟨["thaa", "thaana"],
    "780-31"⟩,
  ⟨["thai"],
    "E01-39 5-1B"⟩,
  ⟨["tibt", "tibetan"],
    "F00-47 1-23 4-26 1-23 1-E 1-6 4-1"⟩,
  ⟨["tirh", "tirhuta"],
    "11480-47 8-9"⟩,
  ⟨["tnsa", "tangsa"],
    "16A70-4E 1-9"⟩,
  ⟨["toto"],
    "1E290-1E"⟩,
  ⟨["ugar", "ugaritic"],
    "10380-1D 1"⟩,
  ⟨["vaii", "vai"],
    "A500-12B"⟩,
  ⟨["vith", "vithkuqi"],
    "10570-A 1-E 1-6 1-1 1-A 1-E 1-6 1-1"⟩,
  ⟨["wara", "warangciti"],
    "118A0-52 C"⟩,
  ⟨["wcho", "wancho"],
    "1E2C0-39 5"⟩,
  ⟨["xpeo", "oldpersian"],
    "103A0-23 4-D"⟩,
  ⟨["xsux", "cuneiform"],
    "12000-399 66-6E 1-4 B-C3"⟩,
  ⟨["yezi", "yezidi"],
    "10E80-29 1-2 2-1"⟩,
  ⟨["yiii", "yi"],
    "A000-48C 3-36"⟩,
  ⟨["zanb", "zanabazarsquare"],
    "11A00-47"⟩,
  ⟨["zinh", "inherited", "qaai"],
    "300-6F 115-1 1C4-A 1A 2E0-3 115B-1E 201-2 1-C 1-6 4 6 3-1 C6-3F 20C-1 C2-20 F39-3 6B-1 " ++
    "CD65-F 10-D 3CF E2 105A BBC4-2D 2-16 220-2 11-7 2-6 1E-3 C2F52-EF"⟩,
  ⟨["zyyy", "common"],
    "0-40 1A-5 1A-2E 1-E 1-4 17 1F 1C1-26 5-4 2-13 74 9 6 1 27D 6 E 3 20 9C 204 81-1 4D9 " ++
    "195-3 122 5EF-2 47-1 CB-1 1 4CD D 7-3 1-5 1-2 2 305-B 2-56 1-A 3-A 1-E 11-20 3F-25 1-2 " ++
    "2-5 1-1A 1-10 29-2 4-296 19-A 15-39F 100-273 2-1F 1-68 200-5D 192-B 4-4 1 1-18 F-7 4-3 " ++
    "5B-1 3 5A-1 93-F 20-23 3C-3F 1F-50 2F 58-A7 19C0-3F 5900-21 66-2 A5-9 F4 A0 18B E-1 " ++
    "51D2-1 D0-9 16-22 1-12 1-3 93 1-1F 1A-5 1A-A A 2D-1 40-6 1-6 A-4 102-2 4-2C 3-8 50-C " ++
    "33-2C E4-1A B9A4-3 12AC-73 3C-F5 A-26 2-3D 3-10 8-1 7-1D 4-3C D5-13 C-13 C-56 9-18 87-54 " ++
    "1-46 1-1 2 2-1 2-3 1-B 1 1-6 1-40 1-3 2-7 1-6 1-1B 1-3 1-4 1 3-6 1-153 2-123 2-31 " ++
    "1471-43 4C-3C 2C2-2B 4-63 C-E 2-E 1-E 1-24 A-AD 38-19 1-1 D-2B 4-8 7-1 E-5 9A-3D7 4-10 " ++
    "3-C 3-76 4-5E 6-B 4 F-B 4-37 8-9 6-27 8-1D 2-1 4E-153 C-D 2-C 3-8 7-2D 1-6 8-D 4-8 7-8 " ++
    "7-92 1-36 25-9 C0407 1E-5F"⟩,
  ⟨["zzzz", "unknown"],
    "378-1 6-3 7 1 14 18D 26-1 32-1 3 37-7 1B-3 6-A 10E 3C-1 65-D 3B-1 31-1 F 1C-1 1 B-4 1F " ++
    "2-5 EC 8-1 2-1 16 7 1-2 4-1 9-1 2-1 4-7 1-3 2 5-1 19-1 3 6-3 2-1 16 7 2 2 2-1 1 5-3 2-1 " ++
    "3-2 1-6 4 1-6 11-9 3 9 3 16 7 2 5-1 A 3 3-1 1-E 4-1 C-6 7 3 8-1 2-1 16 7 2 5-1 9-1 2-1 " ++
    "3-6 3-3 2 5-1 12-9 2 6-2 3 4-2 2 1 2-2 2-2 3-2 C-3 5-2 3 4-1 1-5 1-D 15-4 D 3 17 10-1 9 " ++
    "3 4-6 2 3-1 1-1 4-1 A-6 16 3 17 A 5-1 9 3 4-6 2-5 2 4-1 A 3-B D 3 33 3 6-3 10-1 1A 3 " ++
    "12-2 18 9 1-1 7-2 1-3 6 1 8-5 A-1 3-B 3A-3 1D-24 2 1 5 18 1 17-1 5 1 7 A-1 4-1F 48 24-3 " ++
    "27 24 F D-24 C6 1-4 1-1 179 4-1 7 1 4-1 29 4-1 21 4-1 7 1 4-1 F 39 4-1 43-1 20-2 1A-5 " ++
    "56-1 6-1 29D-2 59-6 16-8 18-8 14-B D 3 2-B 5E-1 A-5 A-5 1A-5 59-6 2B-4 46-9 1F C-3 C-3 " ++
    "1-2 2A-1 5-A 2C-3 1A-5 B-2 3E-1 41 1D-1 B-5 A-5 E-1 1F-30 4D-2 2F 74-7 3C-2 F-2 3C-6 " ++
    "2B-1 B-7 2B-4 216-1 6-1 26-1 6-1 8 1 1 1 1F-1 35 F E-1 6 13-1 3 9 65 C-1 1B D-2 21-E " ++
    "21-E 8C-3 297-18 B-14 714-1 20 15D-4 2D 1-4 1-1 38-6 2-D 18-8 7 7 7 7 7 7 7 7 7E-21 1A " ++
    "59-B D6-19 C-3 40 56-1 67-4 2B 5E 54-B 2F 726D-2 37-8 15C-13 B8-7 CB-4 2 1 5-17 3B-2 A-5 " ++
    "38-7 46-7 C-5 74-A 1E-2 4E B-3 21 37-8 E-1 A-1 67-17 1C-9 6-1 6-1 6-8 7 7 3C-3 7E-1 A-5 " ++
    "2BA4-B 17-3 31-2103 16E-1 6A-25 7-B 5-4 1A 5 1 2 2 7D-F 1BD-1 36-6 1-1F 2A-5 33 13 4-3 5 " ++
    "87-1 1 BE-2 6-1 6-1 6-1 3-2 7 7-9 5-1 C 1A 13 2 F-1 E-21 7B-4 3-3 2D-2 58 D-2 1-2E 2E-81 " ++
    "1D-2 31-E 1C-3 24-8 1E-4 2B-4 1E 25-3 E-29 9E-1 A-5 24-3 24-3 28-7 34-A C F 7 2 B F 7 " ++
    "2-42 137-8 16-9 8-17 6 2A 9-44 6-1 1 2C 2-2 1-1 17 48-7 9-2F 13 2-4 21-2 1B-4 1-3F 38-3 " ++
    "14-1 32 2-4 8 3 1D-1 3-3 A-6 9-6 40-1F 27-3 C-8 36-2 1D-1 1B-4 1A-6 4-B 7-4F 49-36 33-C " ++
    "33-6 2E-7 A-125 1F 2A 3-1 2-4A 2B-7 2A-15 1A-25 1C-13 17-8 4E-3 24-8 44-9 1-1 19-6 A-5 " ++
    "35 12-7 27-8 60 14-A 12 2F-3D 7 1 4 F B-5 3B-4 A-5 4 8-1 2-1 16 7 2 5 A-1 2-1 3-1 1-5 " ++
    "1-4 7-1 7-2 5-8A 5C 5-1D 48-7 A-A5 36-1 26-21 45-A A-5 D-12 3A-5 A-35 1B-1 F-3 17-B8 " ++
    "3C-63 53-B 8-1 1-1 8 2 1E 2-1 C-8 A-45 8-1 2E-1 B-1A 48-7 53-C 49-6 A-F5 9 2D E-9 1D-2 " ++
    "20-1 16 E-48 7 2 2C-2 1 2 9-7 A-5 6 2 25 2 6-6 A-135 19-6 11 29-2 1C-55 1-E 32-C 39B-65 " ++
    "6F 5-A C4-A4B 63-C 456-FA9 247-21B8 239-6 1F A-3 51 A-5 1E-1 6-9 46-9 A 7 15-4 13-2AF " ++
    "5B-64 4B-3 39-6 11-3F 5-A 2-D 17F8-7 4D6-29 9-22E6 4 7 2 123-E 1-1C 3-1 1-D 4-7 18C-903 " ++
    "6B-4 D-2 9-6 A-1 8-125B 2E-1 17-8 74-3B F6-9 27-1 C2-14 46-79 14-B 14-B 57-8 19-86 55 47 " ++
    "2-1 1-1 2-1 4 C 1 7 41 4-1 8 7 1C 4 5 1-2 7 154-1 124-1 2BE-E 5 F-44F 1F-5 6-D4 7 11-1 7 " ++
    "2 5-4 3E-20 1-6F 2D-2 E-1 A-3 2-13F 1F-10 3A-4 1-1CF 2A-2E5 7 4 2 F C5-1 10-28 4C-3 A-3 " ++
    "2-310 44-4B 3D-C1 4 1B 2 1-1 1 A 4 1 1-5 1-3 1 1 1 3 2 1-1 1 1 1 1 1 2 1-1 4 7 4 4 1 A " ++
    "11-4 3 5 11-33 2-10D 2C-3 64-B F-1 F F 25-9 AE-37 1D-C 2C-3 9-6 2-D 6-99 3D8-3 11-2 D-2 " ++
    "77-3 5F-5 C-3 1-E C-3 38-7 A-5 28-7 1E-1 2-4D 154-B E-1 D-2 9-6 2E 7-7 E-3 9-6 9-6 93 " ++
    "37-24 A-405 A6E0-1F 103A-5 DE-1 1682-D 1D31-C1E 21E-5E1 134B-4 1060-ADC50 1-1D 60-7F " ++
    "F0-2FE0F"⟩]

/-- The characters used with a script, where they are not just those of the script. -/
def scriptUsers : List Table := [
  ⟨["adlm", "adlam"],
    "61F 20 1E2BF-4B 4-9 4-1"⟩,
  ⟨["arab", "arabic"],
    "600-4 1-D6 1-21 50-2F F0-1E 1-1 6-49 1-1C F250-72 10-1BC 2-35 7 20-F 70-4 1-86 3E3-1B " ++
    "B64-1E 7E-2 DF00-3 1-1A 1-1 1 2 1-9 1-3 1 1 6 4 1 1 1-2 1-1 1 2 1 1 1 1 1-1 1 2-3 1-6 " ++
    "1-3 1-3 1 1-9 1-10 5-2 1-4 1-10 34-1"⟩,
  ⟨["beng", "bengali"],
    "951-1 11-1 1A-3 1-7 2-1 2-15 1-6 1 3-3 2-8 2-1 2-3 8 4-1 1-4 2-18 12D1 1 2-1 1 8 8 2 4 " ++
    "2-2 8BF9"⟩,
  ⟨["bopo", "bopomofo"],
    "2EA-1 2D15-2 4-9 1-C A-3 2 6 C3 9-2A 70-1F CC85-1 11A-4"⟩,
  ⟨["bugi", "buginese"],
    "1A00-1B 2-1 8FAF"⟩,
  ⟨["buhd", "buhid"],
    "1735-1 9-13"⟩,
  ⟨["cakm", "chakma"],
    "9E6-9 650-9 100B6-34 1-11"⟩,
  ⟨["copt", "coptic", "qaac"],
    "3E2-D 2890-73 5-6 D5E0-1B"⟩,
  ⟨["cpmn", "cyprominoan"],
    "10100-1 2E8E-62"⟩,
  ⟨["cprt", "cypriot"],
    "10100-2 4-2C 3-8 6C0-5 2 1-2B 1-1 3 2"⟩,
  ⟨["cyrl", "cyrillic"],
    "400-12F 1750-8 A2 4C 7F FE7-1F 43 77FC-5F 578E-1 E200-3D 21"⟩,
  ⟨["deva", "devanagari"],
    "900-52 2-2A 1350-26 1-1 3F6 873F-9 A6-1F 7200-9"⟩,
  ⟨["dogr", "dogra"],
    "964-B 9EC0-9 6FC6-3B"⟩,
  ⟨["dupl", "duployan"],
    "1BC00-6A 5-C 3-8 7-9 2-7"⟩,
  ⟨["geor", "georgian"],
    "10A0-25 1 5 2-2F B90-2A 2-2 1040-25 1 5"⟩,
  ⟨["glag", "glagolitic"],
    "484 2 2778-5F 1E3 782B 13990-6 1-10 2-6 1-1 1-4"⟩,
  ⟨["gong", "gunjalagondi"],
    "964-1 113FA-5 1-1 1-24 1-1 1-5 7-9"⟩,
  ⟨["gonm", "masaramgondi"],
    "964-1 1139A-6 1-1 1-2B 3 1-1 1-8 8-9"⟩,
  ⟨["gran", "grantha"],
    "951-1 11-1 280-D 10DC 1-1 1E-2 3-1 3F6 F20F-3 1-7 2-1 2-15 1-6 1-1 1-4 1-9 2-1 2-2 2 6 " ++
    "5-6 2-6 3-4 C5B-1 1"⟩,
  ⟨["grek", "greek"],
    "342 2 2A-3 1-2 2-3 1 4 1 1-2 1 1-13 1-3E E-F 1926-4 32-4 4-4 54-2 13E-15 2-5 2-25 2-5 " ++
    "2-7 1 1 1 1-1E 2-34 1-E 1-D 2-5 1-12 2-2 1-8 127 8A3E 55DA-4E 11 D05F-45"⟩,
  ⟨["gujr", "gujarati"],
    "951-1 11-1 11B-2 1-8 1-2 1-15 1-6 1-1 1-4 2-9 1-2 1-2 2 F-3 2-B 7-6 9D30-9"⟩,
  ⟨["guru", "gurmukhi"],
    "951-1 11-1 9B-2 1-5 4-1 2-15 1-6 1-1 1-1 1-1 2 1-4 4-1 2-2 3 7-3 1 7-10 9DB9-9"⟩,
  ⟨["hang", "hangul"],
    "1100-FF 1E01-2 4-9 1-C E-2 6 C3 35-5D 71-1E 41-1E 76E1-1C 283-2BA3 C-16 4-30 2649-1 " ++
    "11A-4 3A-1E 3-5 2-5 2-5 2-2"⟩,
  ⟨["hani", "han"],
    "2E80-19 1-58 C-D5 2B-2 1-C 1-C 1-C 2 6-8 BB 94-F 20-23 3C-27 38-30 F-B 33 58-18 A-4 " ++
    "60-1E 1-19BF 40-51FF 700-7 51F8-16D 2-69 36B-1 11A-4 707C-1 C-1 636E-11 1EDE-1 DAE-A6DF " ++
    "20-1039 6-DD 2-1681 E-1D30 C1F-21D 5E2-134A 5-105F"⟩,
  ⟨["hano", "hanunoo"],
    "1720-16"⟩,
  ⟨["hira", "hiragana"],
    "3001-2 4-9 1-C 10-5 1 4-1 3-55 2-7 5A-1 CD48-1 11A-4 A 2D-1 B061-11E 12 1D-2 40AD"⟩,
  ⟨["java", "javanese"],
    "A980-4D 1-A 4-1"⟩,
  ⟨["kali", "kayahli"],
    "A900-2F"⟩,
  ⟨["kana", "katakana"],
    "3001-2 4-9 1-C 10-5 1 4-1 5B-3 3-5F F0-F D0-2E 1-57 CAED-1 11A-3E B050-3 1-6 1-1 1 11F-2 " ++
    "32 E-3"⟩,
  ⟨["khoj", "khojki"],
    "AE6-9 9D40-9 69C6-11 1-2E"⟩,
  ⟨["knda", "kannada"],
    "951-1 11-1 31A-C 1-2 1-16 1-9 1-4 2-8 1-2 1-3 7-1 6-1 1-3 2-9 1-2 FDC 1 7 17 1 8B3B-5"⟩,
  ⟨["kthi", "kaithi"],
    "966-9 9EC0-9 6846-42 A"⟩,
  ⟨["latn", "latin"],
    "41-19 6-19 2F F 5-16 1-1E 1-1C0 27-4 7E-C 115-1 4CA-1 7A8 C04-25 6-30 5-3 5-C 1-45 41-FF " ++
    "12F 41 D 10-C 53 39-1 6 1B 11-28 AD7-1F 7A80-7 1A-65 3-3F 5-1 1 1-4 18-D 12E 201-2A 1-8 " ++
    "1-3 4F96-6 41A-19 6-19 825-5 1-29 1-8 D745-1E 6-5"⟩,
  ⟨["limb", "limbu"],
    "965 F9A-1E 1-B 4-B 4 3-B"⟩,
  ⟨["lina", "lineara"],
    "10107-2C 4CC-136 9-15 A-7"⟩,
  ⟨["linb", "linearb"],
    "10000-B 1-19 1-12 1-1 1-E 2-D 22-7A 5-2 4-2C 3-8"⟩,
  ⟨["mahj", "mahajani"],
    "964-B 9EC0-9 6916-26"⟩,
  ⟨["mand", "mandaic"],
    "640 1FF-1B 2"⟩,
  ⟨["mani", "manichaean"],
    "640 1047F-26 4-B"⟩,
  ⟨["mlym", "malayalam"],
    "951-1 11-1 39A-C 1-2 1-32 1-2 1-5 4-F 2-19 F5A 8B55-2"⟩,
  ⟨["modi"],
    "A830-9 6DC6-44 B-9"⟩,
  ⟨["mong", "mongolian"],
    "1800-19 6-58 7-2A 784 F630-C"⟩,
  ⟨["mult", "multani"],
    "A66-9 10810-6 1 1-3 1-E 1-A"⟩,
  ⟨["mymr", "myanmar"],
    "1000-9F 988E B1-1E 61-1F"⟩,
  ⟨["nand", "nandinagari"],
    "964-1 380-9 FF9 8 7 8B35-5 716A-7 2-2D 2-A"⟩,
  ⟨["nkoo", "nko"],
    "60C E 3 1A0-3A 2-2 F53E-1"⟩,
  ⟨["orya", "oriya"],
    "951-1 11-1 19B-2 1-7 2-1 2-15 1-6 1-1 1-4 2-8 2-1 2-2 7-2 4-1 1-4 2-11 1162 17"⟩,
  ⟨["ougr", "olduyghur"],
    "640 104B1 47D-19"⟩,
  ⟨["perm", "oldpermic"],
    "483 FECC-2A"⟩,
  ⟨["phag", "phagspa"],
    "1802-1 1 903A-37"⟩,
  ⟨["phlp", "psalterpahlavi"],
    "640 1053F-11 7-3 C-6"⟩,
  ⟨["rohg", "hanifirohingya"],
    "60C E 3 20 93 1062B-27 8-9"⟩,
  ⟨["shrd", "sharada"],
    "951 1385 1 2-1 2 F49F-5F"⟩,
  ⟨["sind", "khudawadi"],
    "964-1 9ECA-9 6A76-3A 5-9"⟩,
  ⟨["sinh", "sinhala"],
    "964-1 41B-2 1-11 3-17 1-8 1 2-6 3 4-5 1 1-7 6-9 2-2 103EC-13"⟩,
  ⟨["sogd", "sogdian"],
    "640 108EF-29"⟩,
  ⟨["sylo", "sylotinagri"],
    "964-1 80-9 9E10-2C"⟩,
  ⟨["syrc", "syriac"],
    "60C E-1 2 20 A-A 1A 8F-D 1-3B 2-2 110-A 158D 1"⟩,
  ⟨["tagb", "tagbanwa"],
    "1735-1 29-C 1-2 1-1"⟩,
  ⟨["takr", "takri"],
    "964-1 9ECA-9 6E46-39 6-9"⟩,
  ⟨["tale", "taile"],
    "1040-9 906-1D 2-4"⟩,
  ⟨["taml", "tamil"],
    "951-1 11-1 21C-1 1-5 3-2 1-3 3-1 1 1-1 3-1 3-2 3-B 4-4 3-2 1-3 2 6 E-14 10DF 8C18 6A0D 1 " ++
    "37-1 C83-31 D"⟩,
  ⟨["telu", "telugu"],
    "951-1 11-1 29A-C 1-2 1-16 1-F 2-8 1-2 1-3 7-1 1-2 2 2-3 2-9 7-8 105A 17"⟩,
  ⟨["tglg", "tagalog"],
    "1700-15 9 15-1"⟩,
  ⟨["thaa", "thaana"],
    "60C E-1 2 40-9 116-31 F640 A"⟩,
  ⟨["tirh", "tirhuta"],
    "951-1 11-1 138C 8B3D-9 6C46-47 8-9"⟩,
  ⟨["yezi", "yezidi"],
    "60C E 3 40-9 10816-29 1-2 2-1"⟩,
  ⟨["yiii", "yi"],
    "3001-1 5-9 2-7 DF 6F04-48C 3-36 5A9A-4"⟩,
  ⟨["zinh", "inherited", "qaai"],
    "300-41 1-1 1-1C 5F0-1 115B-1E 2F3-35 1 1-4 20C-1 C2-1F DD10-F 10-D 3CF CD02-2D 2-16 " ++
    "220-2 11-7 2-6 1E-3 C2F52-EF"⟩,
  ⟨["zyyy", "common"],
    "0-40 1A-5 1A-2E 1-E 1-4 17 1F 1C1-26 5-4 2-13 74 9 6 1 27D D7 204 55C 195-3 712-2 912-B " ++
    "2-20 1-34 1-A 3-A 1-E 11-20 3F-25 1-2 2-5 1-1A 1-10 29-2 4-296 19-A 15-39F 100-273 2-1F " ++
    "1-68 200-42 1-19 192-B 4 3 D D 15 211-17 1F 31-E C-3 A1-9 5-5F 1F 19C0-3F 5908-19 66-2 " ++
    "3D0 E-1 52A4-9 16-14 2-B 1-12 1-3 93 1-1F 1A-5 1A-5 7F-6 1-6 A-4 192-C 33-2C CD53-73 " ++
    "3C-F5 A-26 2-3D 3-10 8-1 7-1D 4-3C D5-13 C-13 C-56 1B-6 87-54 1-46 1-1 2 2-1 2-3 1-B 1 " ++
    "1-6 1-40 1-3 2-7 1-6 1-1B 1-3 1-4 1 3-6 1-153 2-123 2-31 1471-43 4C-3C 2C2-2B 4-63 C-E " ++
    "2-E 1-E 1-24 A-AD 38-19 1-1 D-2B 4-8 17-5 9A-3D7 4-10 3-C 3-76 4-5E 6-B 4 F-B 4-37 8-9 " ++
    "6-27 8-1D 2-1 4E-153 C-D 2-C 3-8 7-2D 1-6 8-D 4-8 7-8 7-92 1-36 25-9 C0407 1E-5F"⟩]

def script? (name : String) : Option Stretches := (Table.find? scripts name).map Table.stretches

/-- The characters that are used with a script. -/
def scriptExtension? (name : String) : Option Stretches :=
  match Table.find? scriptUsers name with
  | some t => some t.stretches
  | none => script? name

end Traceability.Unicode
