/-
  Traceability.Unicode.Category — the general category of a character.

  The categories part the code points; the groups are unions of them.
-/

import Traceability.Unicode.Stretches

namespace Traceability.Unicode

/-- One table for each general category. -/
def categories : List Table := [
  ⟨["cc", "control", "cntrl"],
    "0-1F 5F-20"⟩,
  ⟨["cf", "format"],
    "AD 552-5 16 C0 31 180-1 50 F2B 7FC-4 1A-4 31-4 1-9 DE8F F9-2 10C1 F 2362-F 8860-3 14CF-7 " ++
    "C2E86 1E-5F"⟩,
  ⟨["cn", "unassigned"],
    "378-1 6-3 7 1 14 18D 26-1 32-1 3 37-7 1B-3 6-A 10E 3C-1 65-D 3B-1 31-1 F 1C-1 1 B-4 1F " ++
    "2-5 EC 8-1 2-1 16 7 1-2 4-1 9-1 2-1 4-7 1-3 2 5-1 19-1 3 6-3 2-1 16 7 2 2 2-1 1 5-3 2-1 " ++
    "3-2 1-6 4 1-6 11-9 3 9 3 16 7 2 5-1 A 3 3-1 1-E 4-1 C-6 7 3 8-1 2-1 16 7 2 5-1 9-1 2-1 " ++
    "3-6 3-3 2 5-1 12-9 2 6-2 3 4-2 2 1 2-2 2-2 3-2 C-3 5-2 3 4-1 1-5 1-D 15-4 D 3 17 10-1 9 " ++
    "3 4-6 2 3-1 1-1 4-1 A-6 16 3 17 A 5-1 9 3 4-6 2-5 2 4-1 A 3-B D 3 33 3 6-3 10-1 1A 3 " ++
    "12-2 18 9 1-1 7-2 1-3 6 1 8-5 A-1 3-B 3A-3 1D-24 2 1 5 18 1 17-1 5 1 7 A-1 4-1F 48 24-3 " ++
    "27 24 F D-24 C6 1-4 1-1 179 4-1 7 1 4-1 29 4-1 21 4-1 7 1 4-1 F 39 4-1 43-1 20-2 1A-5 " ++
    "56-1 6-1 29D-2 59-6 16-8 18-8 14-B D 3 2-B 5E-1 A-5 A-5 1A-5 59-6 2B-4 46-9 1F C-3 C-3 " ++
    "1-2 2A-1 5-A 2C-3 1A-5 B-2 3E-1 41 1D-1 B-5 A-5 E-1 1F-30 4D-2 2F 74-7 3C-2 F-2 3C-6 " ++
    "2B-1 B-7 2B-4 216-1 6-1 26-1 6-1 8 1 1 1 1F-1 35 F E-1 6 13-1 3 9 65 C-1 1B D-2 21-E " ++
    "21-E 8C-3 297-18 B-14 714-1 20 15D-4 2D 1-4 1-1 38-6 2-D 18-8 7 7 7 7 7 7 7 7 7E-21 1A " ++
    "59-B D6-19 C-3 40 56-1 67-4 2B 5E 54-B 2F 726D-2 37-8 15C-13 B8-7 CB-4 2 1 5-17 3B-2 A-5 " ++
    "38-7 46-7 C-5 74-A 1E-2 4E B-3 21 37-8 E-1 A-1 67-17 1C-9 6-1 6-1 6-8 7 7 3C-3 7E-1 A-5 " ++
    "2BA4-B 17-3 31-3 226E-1 6A-25 7-B 5-4 1A 5 1 2 2 7D-F 1BD-1 36-6 1-1F 2A-5 33 13 4-3 5 " ++
    "87-1 1 BE-2 6-1 6-1 6-1 3-2 7 7-9 5-1 C 1A 13 2 F-1 E-21 7B-4 3-3 2D-2 58 D-2 1-2E 2E-81 " ++
    "1D-2 31-E 1C-3 24-8 1E-4 2B-4 1E 25-3 E-29 9E-1 A-5 24-3 24-3 28-7 34-A C F 7 2 B F 7 " ++
    "2-42 137-8 16-9 8-17 6 2A 9-44 6-1 1 2C 2-2 1-1 17 48-7 9-2F 13 2-4 21-2 1B-4 1-3F 38-3 " ++
    "14-1 32 2-4 8 3 1D-1 3-3 A-6 9-6 40-1F 27-3 C-8 36-2 1D-1 1B-4 1A-6 4-B 7-4F 49-36 33-C " ++
    "33-6 2E-7 A-125 1F 2A 3-1 2-4A 2B-7 2A-15 1A-25 1C-13 17-8 4E-3 24-8 44-9 1-1 19-6 A-5 " ++
    "35 12-7 27-8 60 14-A 12 2F-3D 7 1 4 F B-5 3B-4 A-5 4 8-1 2-1 16 7 2 5 A-1 2-1 3-1 1-5 " ++
    "1-4 7-1 7-2 5-8A 5C 5-1D 48-7 A-A5 36-1 26-21 45-A A-5 D-12 3A-5 A-35 1B-1 F-3 17-B8 " ++
    "3C-63 53-B 8-1 1-1 8 2 1E 2-1 C-8 A-45 8-1 2E-1 B-1A 48-7 53-C 49-6 A-F5 9 2D E-9 1D-2 " ++
    "20-1 16 E-48 7 2 2C-2 1 2 9-7 A-5 6 2 25 2 6-6 A-135 19-6 11 29-2 1C-55 1-E 32-C 39B-65 " ++
    "6F 5-A C4-A4B 63-C 456-FA9 247-21B8 239-6 1F A-3 51 A-5 1E-1 6-9 46-9 A 7 15-4 13-2AF " ++
    "5B-64 4B-3 39-6 11-3F 5-A 2-D 17F8-7 4D6-29 9-22E6 4 7 2 123-E 1-1C 3-1 1-D 4-7 18C-903 " ++
    "6B-4 D-2 9-6 A-1 8-125B 2E-1 17-8 74-3B F6-9 27-1 C2-14 46-79 14-B 14-B 57-8 19-86 55 47 " ++
    "2-1 1-1 2-1 4 C 1 7 41 4-1 8 7 1C 4 5 1-2 7 154-1 124-1 2BE-E 5 F-44F 1F-5 6-D4 7 11-1 7 " ++
    "2 5-4 3E-20 1-6F 2D-2 E-1 A-3 2-13F 1F-10 3A-4 1-1CF 2A-2E5 7 4 2 F C5-1 10-28 4C-3 A-3 " ++
    "2-310 44-4B 3D-C1 4 1B 2 1-1 1 A 4 1 1-5 1-3 1 1 1 3 2 1-1 1 1 1 1 1 2 1-1 4 7 4 4 1 A " ++
    "11-4 3 5 11-33 2-10D 2C-3 64-B F-1 F F 25-9 AE-37 1D-C 2C-3 9-6 2-D 6-99 3D8-3 11-2 D-2 " ++
    "77-3 5F-5 C-3 1-E C-3 38-7 A-5 28-7 1E-1 2-4D 154-B E-1 D-2 9-6 2E 7-7 E-3 9-6 9-6 93 " ++
    "37-24 A-405 A6E0-1F 103A-5 DE-1 1682-D 1D31-C1E 21E-5E1 134B-4 1060-ADC50 1-1D 60-7F " ++
    "F0-FE0F FFFE-1 FFFE-1"⟩,
  ⟨["co", "privateuse"],
    "E000-18FF E0700-FFFD 2-FFFD"⟩,
  ⟨["cs", "surrogate"],
    "D800-7FF"⟩,
  ⟨["ll", "lowercaseletter"],
    "61-19 3A 29-17 1-7 1 1 1 1 1 1 1 1 1 1 1 1 1 1 1 1 1 1 1 1 1 1 1 1 1 1 1 1-1 1 1 1 1 1 1 " ++
    "1 1-1 1 1 1 1 1 1 1 1 1 1 1 1 1 1 1 1 1 1 1 1 1 1 1 2 1 1-2 2 1 2 3-1 4 2 3-2 2 2 1 1 2 " ++
    "1-1 1 2 3 1 2-1 2-2 6 2 2 1 1 1 1 1 1 1 1-1 1 1 1 1 1 1 1 1 1-1 2 1 3 1 1 1 1 1 1 1 1 1 " ++
    "1 1 1 1 1 1 1 1 1 1 1 1 1 1 1 1 1 1 1 1-6 2 2-1 1 4 1 1 1 1-44 1-1A C1 1 3 3-2 12 1B-22 " ++
    "1-1 3-2 1 1 1 1 1 1 1 1 1 1 1 1-4 1 2 2-1 33-2F 1 1 1 1 1 1 1 1 1 1 1 1 1 1 1 1 1 9 1 1 " ++
    "1 1 1 1 1 1 1 1 1 1 1 1 1 1 1 1 1 1 1 1 1 1 1 1 2 1 1 1 1 1 1-1 1 1 1 1 1 1 1 1 1 1 1 1 " ++
    "1 1 1 1 1 1 1 1 1 1 1 1 1 1 1 1 1 1 1 1 1 1 1 1 1 1 1 1 1 1 1 1 1 1 1 1 30-28 B47-2A 2-2 " ++
    "2F8-5 882-8 77-2B 3F-C 1-21 66 1 1 1 1 1 1 1 1 1 1 1 1 1 1 1 1 1 1 1 1 1 1 1 1 1 1 1 1 1 " ++
    "1 1 1 1 1 1 1 1 1 1 1 1 1 1 1 1 1 1 1 1 1 1 1 1 1 1 1 1 1 1 1 1 1 1 1 1 1 1 1 1 1 1 1 1 " ++
    "1-8 1 1 1 1 1 1 1 1 1 1 1 1 1 1 1 1 1 1 1 1 1 1 1 1 1 1 1 1 1 1 1 1 1 1 1 1 1 1 1 1 1 1 " ++
    "1 1 1 1 1 1 1-8 8-5 A-7 8-7 8-5 A-7 8-7 8-D 2-7 8-7 8-7 8-4 1-1 6 3-2 1-1 8-3 2-1 8-7 " ++
    "A-2 1-1 112 3-1 3 1B 4 4 2-1 8-3 4 35 AAB-2F 1 3-1 1 1 1 4 1-1 1-5 5 1 1 1 1 1 1 1 1 1 1 " ++
    "1 1 1 1 1 1 1 1 1 1 1 1 1 1 1 1 1 1 1 1 1 1 1 1 1 1 1 1 1 1 1 1 1 1 1 1 1 1 1-1 7 1 4 " ++
    "C-25 1 5 7913 1 1 1 1 1 1 1 1 1 1 1 1 1 1 1 1 1 1 1 1 1 1 13 1 1 1 1 1 1 1 1 1 1 1 1 1 " ++
    "87 1 1 1 1 1 1-2 1 1 1 1 1 1 1 1 1 1 1 1 1 1 1 1 1 1 1 1 1 1 1 1 1 1 1 1 1 1 1 1-7 1 1 2 " ++
    "1 1 1 1 4 1 2 1-2 1 1 1 1 1 1 1 1 1 1 5 5 1 1 1 1 1 1 1 4 1 6 1 1 1 1 1C 3 335-2A 5-8 " ++
    "7-4F 4F40-6 C-4 429-19 4CD-27 88-23 9B-A 1-E 1-6 1-1 703-32 BCD-1F 5580-1F 659A-19 1A-6 " ++
    "1-11 1A-19 1A-3 1 1-6 1-A 1A-19 1A-19 1A-19 1A-19 1A-19 1A-19 1A-19 1A-19 1A-1B 1C-18 " ++
    "1-5 1A-18 1-5 1A-18 1-5 1A-18 1-5 1A-18 1-5 1 734-9 1-13 6-5 9F7-21"⟩,
  ⟨["lm", "modifierletter"],
    "2B0-11 4-B E-4 7 1 85 5 1DE E6 A4-1 10D-1 4 1F 9 3 A0 A7 4D4 7F 235 6DA 6B 263 1D0-5 " ++
    "AE-3E D 22-24 2B1 D 10-C BDF-1 F1 BF 1D5 2B-4 5 61-1 5D-2 6F16 4E2-5 10E 72 1C-1 79-8 50 " ++
    "17 69-2 3-1 1D5 16 89 6C 15-1 67-3 9 5406 2D-1 7E0-5 1-29 1-8 6385-3 44F-C 40-1 1 400C-3 " ++
    "1-6 1-1 3031-3D C9-6 3AD 45F"⟩,
  ⟨["lo", "otherletter"],
    "AA F 100 4-3 D0 33B-1A 4-3 2D-1F 1-9 23-1 1-62 1 18-1 A-2 2 10 1-1D 1D-58 B 18-20 15-15 " ++
    "2A-18 7-A 5-17 1-5 11-28 3B-35 3 12 7-9 10-E 4-7 2-1 2-15 1-6 1 3-3 3 10 D-1 1-2 E-1 A " ++
    "8-5 4-1 2-15 1-6 1-1 1-1 1-1 1F-3 1 13-2 10-8 1-2 1-15 1-6 1-1 1-4 3 12 F-1 17 B-7 2-1 " ++
    "2-15 1-6 1-1 1-4 3 1E-1 1-2 F 11 1-5 3-2 1-3 3-1 1 1-1 3-1 3-2 3-B 16 34-7 1-2 1-16 1-F " ++
    "3 1A-2 2 2-1 1E 4-7 1-2 1-16 1-9 1-4 3 1F-1 1-1 F-1 11-8 1-2 1-28 2 10 5-2 8-2 18-5 5-11 " ++
    "3-17 1-8 1 2-6 3A-2F 1-1 C-5 3B-1 1 1-4 1-17 1 1-9 1-1 9 2-4 17-3 20 3F-7 1-23 1B-4 " ++
    "73-2A 14 10-5 4-3 3 3-1 7-2 4-C C 71-148 1-3 2-6 1 1-3 2-28 1-3 2-20 1-3 2-6 1 1-3 2-E " ++
    "1-38 1-3 2-42 25-F 71-26B 2-10 1-19 5-4A 6-7 7-11 D-12 E-11 E-C 1-2 F-33 28 43-22 1-34 " ++
    "7-4 2-21 1 5-45 A-1E 31-1D 2-4 B-2B 4-19 36-16 9-34 B0-2E 11-7 36-1D D-1 A-2B 1A-23 29-2 " ++
    "A-1D 71-3 1-5 1-1 3 43A-3 BF7-37 18-16 9-6 1-6 1-6 1-6 1-6 1-6 1-6 1-6 227 35 4-55 8 " ++
    "1-59 4 5-2A 1-5D 11-1F 30-F 200-19BF 40-5214 1-476 43-27 8-10B 4-F A-1 42 31-45 A9 67 " ++
    "3-6 1-2 1-3 1-16 1D-33 E-31 3E-5 3 1-1 B-1B A-16 19-1C 7-2E 2D-4 2-8 A-4 1-28 17-2 1-7 " ++
    "14-F 1-5 3 3-31 1 3-1 2-4 2 1 18-1 3-A 7 E-5 2-5 2-5 9-6 1-6 91-22 1D-2BA3 C-16 4-30 " ++
    "2104-16D 2-69 43 1-9 1-C 1-4 1 1-1 1-1 1-6B 21-16A 12-3F 2-35 28-B 74-4 1-86 69-9 1-2C " ++
    "2-1E 3-5 2-5 2-5 2-2 23-B 1-19 1-12 1-1 1-E 2-D 22-7A 185-1C 3-30 2F-1F D-13 1-7 6-25 " ++
    "A-1D 2-23 4-7 80-4D 62-27 8-33 9C-136 9-15 A-7 98-5 2 1-2B 1-1 3 2-16 A-16 9-1E 41-12 " ++
    "1-1 A-15 A-19 46-37 6-1 40 F-3 1-2 1-1C 2A-1C 3-1C 23-7 1-1B 1B-35 A-15 A-12 D-11 6E-48 " ++
    "B7-23 15C-29 6-1 4E-1C A 8-15 2A-11 2E-14 1B-16 C-34 39-1 2 D-2C 20-18 1A-23 1D 2 8-22 3 " ++
    "C-2F E-3 15 1 23-11 1-18 13-1 3F-6 1 1-3 1-E 1-9 7-2E 26-7 2-1 2-15 1-6 1-1 1-4 3 12 C-4 " ++
    "9E-34 12-3 14-2 1E-2F 14-1 1 B8-2E 29-3 24-2F 14 3B-2A D 47-1A 25-6 B9-2B D3-7 2 2-7 1-1 " ++
    "1-17 F 1 5E-7 2-26 10 1 1C A-27 7 15 B-2D 13 12-48 107-8 1-24 11 31-1D 70-6 1-1 1-25 15 " ++
    "19-5 1-1 1-1F E 147-12 F 1-C 1-21 7C 4F-399 E6-C3 A4C-60 F-42F 11-5 FB9-246 21B9-238 " ++
    "7-1E 11-4E 11-1D 12-2F 33-14 5-12 370-4A 5 AF-17F7 8-4D5 2A-8 22F7-122 F 1D-2 2 E-3 " ++
    "8-18B 904-6A 5-C 3-8 7-9 2270 1F5-2C 21 141-1D 12-2B 1E4-1A 2F5-6 1-3 1-1 1-E 1-C4 53B-3 " ++
    "1-1A 1-1 1 2 1-9 1-3 1 1 6 4 1 1 1-2 1-1 1 2 1 1 1 1 1-1 1 2-3 1-6 1-3 1-3 1 1-9 1-10 " ++
    "5-2 1-4 1-10 1144-A6DF 20-1039 6-DD 2-1681 E-1D30 C1F-21D 5E2-134A 5-105F"⟩,
  ⟨["lt", "titlecaseletter"],
    "1C5 2 2 26 1D95-7 8-7 8-7 C F 2F"⟩,
  ⟨["lu", "uppercaseletter"],
    "41-19 65-16 1-6 21 1 1 1 1 1 1 1 1 1 1 1 1 1 1 1 1 1 1 1 1 1 1 1 1 1 1 1 2 1 1 1 1 1 1 1 " ++
    "2 1 1 1 1 1 1 1 1 1 1 1 1 1 1 1 1 1 1 1 1 1 1 1-1 1 1 3-1 1 1-1 1-2 2-3 1-1 1-2 3-1 1-1 " ++
    "1 1 1-1 1 2 1-1 1-2 1 1-1 3 7 2 2 2 1 1 1 1 1 1 1 2 1 1 1 1 1 1 1 1 2 2 1-2 1 1 1 1 1 1 " ++
    "1 1 1 1 1 1 1 1 1 1 1 1 1 1 1 1 1 1 1 1 1 1 1 7-1 1-1 2 1-3 1 1 1 1 121 1 3 8 6 1-2 1 " ++
    "1-1 1-10 1-8 23 2-2 3 1 1 1 1 1 1 1 1 1 1 1 5 2 1-1 2-32 30 1 1 1 1 1 1 1 1 1 1 1 1 1 1 " ++
    "1 1 9 1 1 1 1 1 1 1 1 1 1 1 1 1 1 1 1 1 1 1 1 1 1 1 1 1 1 1-1 1 1 1 1 1 1 2 1 1 1 1 1 1 " ++
    "1 1 1 1 1 1 1 1 1 1 1 1 1 1 1 1 1 1 1 1 1 1 1 1 1 1 1 1 1 1 1 1 1 1 1 1 1 1 1 1 1 2-25 " ++
    "B49-25 1 5 2D2-55 89A-2A 2-2 140 1 1 1 1 1 1 1 1 1 1 1 1 1 1 1 1 1 1 1 1 1 1 1 1 1 1 1 1 " ++
    "1 1 1 1 1 1 1 1 1 1 1 1 1 1 1 1 1 1 1 1 1 1 1 1 1 1 1 1 1 1 1 1 1 1 1 1 1 1 1 1 1 1 1 1 " ++
    "1 1 9 1 1 1 1 1 1 1 1 1 1 1 1 1 1 1 1 1 1 1 1 1 1 1 1 1 1 1 1 1 1 1 1 1 1 1 1 1 1 1 1 1 " ++
    "1 1 1 1 1 1 1 9-7 8-5 A-7 8-7 8-5 B 1 1 1 8-7 48-3 C-3 C-3 C-4 B-3 106 4 3-2 2-2 2 3-4 6 " ++
    "1 1 1-3 2-3 A-1 5 3D A7C-2F 30 1-2 2 1 1 1-3 1 2 8-2 1 1 1 1 1 1 1 1 1 1 1 1 1 1 1 1 1 1 " ++
    "1 1 1 1 1 1 1 1 1 1 1 1 1 1 1 1 1 1 1 1 1 1 1 1 1 1 1 1 1 1 1 8 1 4 794D 1 1 1 1 1 1 1 1 " ++
    "1 1 1 1 1 1 1 1 1 1 1 1 1 1 13 1 1 1 1 1 1 1 1 1 1 1 1 1 87 1 1 1 1 1 1 3 1 1 1 1 1 1 1 " ++
    "1 1 1 1 1 1 1 1 1 1 1 1 1 1 1 1 1 1 1 1 1 1 1 A 1 1-1 1 1 1 1 4 1 2 1 3 1 1 1 1 1 1 1 1 " ++
    "1 1-4 1-4 1 1 1 1 1 1 1 1-3 1 6 5 1 1C 572B-19 4C5-27 88-23 9C-A 1-E 1-6 1-1 6EA-32 " ++
    "BED-1F 5580-1F 65A0-19 1A-19 1A-19 1A 1-1 2 2-1 2-3 1-7 1A-19 1A-1 1-3 2-7 1-6 1B-1 1-3 " ++
    "1-4 1 3-6 1B-19 1A-19 1A-19 1A-19 1A-19 1A-19 1E-18 21-18 21-18 21-18 21-18 21 1135-21"⟩,
  ⟨["mc", "spacingmark"],
    "903 37 2-2 8-3 1-1 32-1 3A-2 6-1 2-1 A 2B 3A-2 42 3A-2 8 1-1 35-1 3A 1 6-1 2-1 A 66-1 " ++
    "1-1 3-2 1-2 A 29-2 3D-3 3D-1 3A 1-4 2-1 1-1 9-1 1C E-1 3A-2 5-2 1-2 A 2A-1 4B-2 6-7 12-1 " ++
    "14A-1 3F AB-1 4 6 2-1 19-1 A-2 2-6 15-1 2-5 2 A-2 678 1E 81 7-7 1-1 15A-3 2-2 4-1 1-5 " ++
    "E0-1 3A 1 9 1-1 8-5 91 30 5 1-4 1-1 3D 1E 4-1 2 3C 2-2 1 3-1 30-7 8-1 AB 15 1336-1 " ++
    "77F3-1 2 58-1 32-F 8E-1 2F 30-1 4-1 2-2 6E-1 2-1 18 2D 1 6D 2-1 5 ED-1 1-1 1-1 1 6413 1 " ++
    "7F 2D-2 4-1 73 18-1 3B 30-2 9-1 D 5D-2 3-1 1 AA-2 1F-1 3A-1 1-3 2-1 2-2 9 A-1 D1-2 8-1 3 " ++
    "6A-2 6 1-3 2 ED-2 6-3 2 71-2 8-1 1 6D 1-1 6 69-1 4 105-2 9 F7-5 1-1 4 2 1 8E-2 8-3 4 54 " ++
    "1D-1 3E 197 E 6A 7 2 D5-4 4-1 1 15E-1 C 30-1 8-1 1 500F-36 68-1 6173-1 6-5"⟩,
  ⟨["me", "enclosingmark"],
    "488-1 1634 61E-3 1-2 858B-2"⟩,
  ⟨["mn", "nonspacingmark"],
    "300-6F 113-4 109-2C 1 1-1 1-1 1 48-A 30-14 10 65-6 2-5 2-1 1-3 23 1E-1A 5B-A 3A-8 9 18-3 " ++
    "1-8 1-2 1-4 2B-2 3C-7 2A-17 1-1F 37 1 4-7 4 3-6 A-1 1D 3A 4-3 8 14-1 1A 2-1 39 4-1 4-1 " ++
    "2-2 3 1E-1 3 B-1 39 4-4 1-1 4 14-1 16-5 1 3A 2 1-3 8 7-1 B-1 1E 3D C 32 3 37 1-2 5-2 1-3 " ++
    "7-1 B-1 1D 3A 2 6 5-1 14-1 1C-1 39-1 4-3 8 14-1 1D 48 7-2 1 5A 2-6 C-7 62 2-8 B-6 49-1 " ++
    "1B 1 1 37-D 1-4 1-1 5-A 1-23 9 66-3 1-5 1-1 2-1 19-1 4-2 10-3 D 2-1 6 F 2BF-2 3B2-2 1D-1 " ++
    "1E-1 1E-1 40-1 1-6 8 2-A 9 2D-2 1 75-1 22 76-2 4-1 9 6-2 DB-1 2 3A 1-6 1 1 2-7 6-9 2 " ++
    "30-D 1-F 31-3 30 1-4 1 5 28-8 C-1 20-3 2-1 1-2 38 1-1 3 1-2 3A-7 2-1 98-2 1-C 1-6 4 6 " ++
    "3-1 C6-3F 2D0-C 4 3-B BFE-2 8D 60-1F 22A-3 6B-1 75D4 4-9 20-1 50-1 110 3 4 19-1 5 97-1 " ++
    "1A-11 D 26-7 19-A 2E-2 30 2-3 2-1 27 43-5 2-1 2-1 C 8 2F 33 1-2 2-1 5-1 1 2A-1 8 EE 2 4 " ++
    "4F30 2E1-F 10-F 3CD E2 95-4 686-2 1-1 5-3 28-2 4 A5-1 23D-3 183-1 50-2 46-A 31-3 7B 36-E " ++
    "29 2-1 A-2 31-3 2-1 7 3D-2 24-4 1-7 3E C-1 34-8 A-3 2 5F-2 2 1-1 6 2 9D 3-7 15-1 39-1 3 " ++
    "25-6 3-4 C3-7 2-2 1 17 54-5 1 4-1 1-1 EE-3 6-1 1-1 1B-1 55-7 2 1-1 6A 1 2-5 1 65-2 2-3 " ++
    "1-4 103-8 1-1 100-1 1 4 90-3 2-1 4 20-9 28-5 2-3 8 9-5 2-2 2E-C 1-1 196-6 1-5 1 52-15 " ++
    "2-6 1-1 1-1 7A-5 3 1-1 1-6 1 48-1 3 1 15B-1 B-1 34-4 5 1 14FD 6-E 369A-4 3B-6 418 3F-3 " ++
    "51 4CB8-1 1261-2D 2-16 220-2 11-7 2-6 1E-3 94-2 7BB-36 4-31 8 E 16-4 1-E 550-6 1-10 2-6 " ++
    "1-1 1-4 64 A0-6 177 3D-3 1FC-3 3E0-6 6D-6 C17B5-EF"⟩,
  ⟨["nd", "decimalnumber", "digit"],
    "30-9 626-9 86-9 C6-9 19C-9 76-9 76-9 76-9 76-9 76-9 76-9 76-9 76-9 76-9 60-9 76-9 46-9 " ++
    "116-9 46-9 746-9 26-9 12C-9 80-9 A6-9 6-9 B6-9 56-9 86-9 6-9 89C6-9 2A6-9 26-9 C6-9 16-9 " ++
    "56-9 196-9 5316-9 586-9 886-9 32C-9 80-9 3C-9 90-9 116-9 156-9 76-9 176-9 66-9 66-9 " ++
    "1A6-9 66-9 2F6-9 F6-9 46-9 1A6-9 4B06-9 56-9 86-9 6C74-31 940-9 1A6-9 1F6-9 456-9 1296-9"⟩,
  ⟨["nl", "letternumber"],
    "16EE-2 A6F-22 2-3 E7E 19-8 E-2 76AB-9 5A50-34 1CC 8 86-4 202A-6E"⟩,
  ⟨["no", "othernumber"],
    "B2-1 5 2-2 935-5 178-5 78-2 85-6 D9-6 11-8 1B1-9 435-13 473-9 1E0 695 3-5 6-9 C6-F 29 " ++
    "2D6-3B 4E-15 276-1D 569 494-3 8A-9 1E-7 1-E 20-9 27-E 7570-5 58D1-2C 41-3 11-1 155-1A " ++
    "24-3 534-7 19-6 27-8 4B-4 16-5 A0-1 2-F 2-2D 40-8 34-1 1E-2 4B-4 68-7 18-7 29-6 14A-5 " ++
    "160-1E 9E-9 2A-3 70-6 86-13 17B-13 545-1 1AE-8 367-12 353-14 4B86-6 31E-16 6429-13 C-13 " ++
    "6C-18 154E-8 3A1-3A 1-2 1-3 4C-2C 1-E 3C2-C"⟩,
  ⟨["pc", "connectorpunctuation"],
    "5F 1FDF-1 13 DDDE-1 18-2 EF"⟩,
  ⟨["pd", "dashpunctuation"],
    "2D 55C 33 E41 405 809-5 E01 2 1F-1 4 1C 1BE 13 6F CD90-1 25 A A9 F9F"⟩,
  ⟨["pe", "closepunctuation"],
    "29 33 1F EBD 1 75E 9A9 37 F 27A 1 1E 43E 1 1 1 1 1 1 50 20 1 1 1 1 194 1 1 1 1 1 1 1 1 1 " ++
    "1 40 1 21 425 1 1 1 2C 1 1 1 1AC 1 1 1 1 3 1 1 1 2-1 CD1E D9 1D 1 1 1 1 1 1 1 3 11 1 1 " ++
    "AA 33 1F 2 2"⟩,
  ⟨["pf", "finalpunctuation"],
    "BB 1F5D 3 1C DC8 1 4 2 F 3"⟩,
  ⟨["pi", "initialpunctuation"],
    "AB 1F6C 2-1 2 19 DC8 1 4 2 F 3"⟩,
  ⟨["po", "otherpunctuation"],
    "21-2 1-2 2 1 1-1 A-1 3-1 1B 44 5 E-1 7 2BE 8 1D2-5 29 36 2 2 2C-1 14-1 1-1 D 1-2 4A-3 66 " ++
    "2B-D E9-2 36-E 1F 105-1 A 8C 78 79 186 C 16F 5A A-1 A8-E 1 70 4A-4 4-1 6F-5 AB 264-8 305 " ++
    "7C-2 47-1 9D-2 1-2 25-5 1-3 139-1 D8-1 80-6 1-5 AC-6 1C-1 7D-3 3B-4 3E-1 40-7 B 342-1 " ++
    "8-7 8-8 2-3 2-2 3-A 1 1-9 C9A-3 1-1 70 8F-1 4-2 2 2-8 1-1 1 2-1 A-4 1-9 2-3 1 1-C 2-2 " ++
    "1AC-2 39 BD 7402-1 10D-2 63 A 73-5 17C-3 56-1 28-2 1 31-1 2F 61-C 10-1 7C-3 7E-1 10-1 F9 " ++
    "5224-6 2 16 14-1 2-3 3-2 1-3 7-2 6 1-1 95-2 1-2 2 1 1-1 A-1 3-1 1B 24 2-1 19A-2 29C 30 " ++
    "19E 2E7 C7 1F 110-8 26 70-6 42-6 59-3 3B8-4 2C-3 BD-6 6D-1 1-3 7E-3 30-1 4F-3 4 D 1-2 " ++
    "58-5 6B 1A1-4 A-1 1 68 FA-16 69-2 1C-C 4C 82-2 FC 108-2 9B 5C-7 53-2 1-4 5D-9 137-4 2A-1 " ++
    "285-1 4A-C AF 470-4 B7C-1 3A7B-1 85 41-4 8 352-3 147 4CBC 1DE7-4 ED2-1"⟩,
  ⟨["ps", "openpunctuation"],
    "28 32 1F EBE 1 75E 97E 3 26 37 F 27A 1 1E 43E 1 1 1 1 1 1 50 20 1 1 1 1 194 1 1 1 1 1 1 " ++
    "1 1 1 1 40 1 21 425 1 1 1 19 12 1 1 1 1AC 1 1 1 1 3 1 1 1 2 CD21 D7 1D 1 1 1 1 1 1 1 3 " ++
    "11 1 1 AA 32 1F 3 2"⟩,
  ⟨["sc", "currencysymbol"],
    "24 7D-3 4E9 7B 1F2-1 1F2-1 7 F5 107 245 99B 8C4-20 8777 55C3 6C 9A DB-1 3-1 1FF6-3 C31E " ++
    "9B0"⟩,
  ⟨["sk", "modifiersymbol"],
    "5E 1 47 6 4 3 209-3 C-D 5-6 1 1-10 75 E-1 502 1734 1-2 B-2 D-2 D-2 D-1 109C-1 7663-16 " ++
    "9-1 67-1 3D0 E-1 5046-10 37B 1 A2 F417-4"⟩,
  ⟨["sm", "mathsymbol"],
    "2B 10-2 3D 1 2D 4 25 1F 2FE 20F-2 1A3B D 27-2 D-2 8B 27-4 6 44-4 5-1 4 2 2 7 1F-1 2 1 " ++
    "1F-10B 20-1 5A 1E-18 28-5 1D5 9 36-7 6F 150-4 2-1E A-F 100-82 16-3E 4-1F 2-101 30-14 2-5 " ++
    "CFDC 338 1-2 A4 10-2 3D 1 83 6-3 D6D4 19 1F 19 1F 19 1F 19 1F 19 172C-1"⟩,
  ⟨["so", "othersymbol"],
    "A6 2 4 1 3D1 10A-1 7F-1 CE A 13-1 F7 203 175 82-5 1 84 CF 29 187-2 F 1-2 2-5 14 1 1 85-7 " ++
    "1-5 1-1 5-3 C5-1 2F0-9 2D3 2D2 9D-21 161-9 9-8 583-1 1-3 1-1 A 1-1 6-5 1 1 1 4 B-1 E 1-1 " ++
    "1 3A-1 9-4 2-3 1-1 1-1 1-6 1-1E 2-1 1 1-1E 10C-7 4-13 2-6 2-50 1-1D 19-27 6-44 19-A " ++
    "51-4D 16-B6 1-8 1-35 8-6E 1-F7 2C-2B 40-FF 200-2F 15-1 6-26 2-1F 1-68 E5-5 165-1 2E-19 " ++
    "1-58 C-D5 1A-B 8 D-1 C 15-1 6-1 150-1 4-9 20-23 1C-1E B-1D 8 F-1F A-26 F-13F 19C0-3F " ++
    "5690-36 361-3 A-1 1 23D-2 52C6-F 7F 2D-2 1E4 3 4-1 D-1 139-8 39-10 2-2 1-C 3 2F-2C 67A-1 " ++
    "24F C76 895-7 4-10 4B4A-3 5 5156 12B3-73 3C-F5 A-26 2-3B 5-2 16-1 7-1D 4-3C 15-41 3 " ++
    "BA-56 4A9-1FF 37-3 32-7 1-D 1-1 6C8 B5C 81 2D1-2B 4-63 C-E 2-E 1-E 1-24 17-A0 38-1C D-2B " ++
    "4-8 7-1 E-5 9A-FA 5-2D7 4-10 3-C 3-76 4-5E 6-B 4 F-B 4-37 8-9 6-27 8-1D 2-1 4E-153 C-D " ++
    "2-C 3-8 7-2D 1-6 8-D 4-8 7-8 7-92 1-36"⟩,
  ⟨["zl", "lineseparator"],
    "2028"⟩,
  ⟨["zp", "paragraphseparator"],
    "2029"⟩,
  ⟨["zs", "spaceseparator"],
    "20 7F 15DF 97F-A 24 2F FA0"⟩]

/-- The groups of categories, by name, with their members. -/
def categoryGroups : List (List String × List String) := [
  (["lc", "casedletter"], ["lu", "ll", "lt"]),
  (["l", "letter"], ["lu", "ll", "lt", "lm", "lo"]),
  (["m", "mark", "combiningmark"], ["mn", "mc", "me"]),
  (["n", "number"], ["nd", "nl", "no"]),
  (["p", "punctuation", "punct"], ["pc", "pd", "ps", "pe", "pi", "pf", "po"]),
  (["s", "symbol"], ["sm", "sc", "sk", "so"]),
  (["z", "separator"], ["zs", "zl", "zp"]),
  (["c", "other"], ["cc", "cf", "cn", "co", "cs"])]

/-- The code points of a category or a group of them. -/
def category? (name : String) : Option Stretches :=
  match categoryGroups.find? (·.1.contains name) with
  | some group => some (group.2.flatMap fun n => ((Table.find? categories n).map Table.stretches).getD [])
  | none => (Table.find? categories name).map Table.stretches

end Traceability.Unicode
