import ConfigStack.Unicode.Ranges

/-!
# Combining characters

The characters that are marks, and the class by which a combining character is ordered among those
that follow the same base; class zero has what is not reordered.
-/
namespace ConfigStack.Unicode

def markRuns : List String :=
  ["300 70 113 7 107 2D 1 1 1 2 1 2 1 1 48 B 30 15 10 1 65 7 2 6 2 2 1 4 23 1 1E 1B 5B B 3A 9 9",
    "1 18 4 1 9 1 3 1 5 2B 3 3C 8 2A 18 1 21 36 3 1 12 1 7 A 2 1D 3 38 1 1 7 2 2 2 3 9 1 A 2 1A 1",
    "2 3 38 1 1 5 4 2 2 3 3 1 1E 2 3 1 B 3 38 1 1 8 1 3 1 3 14 2 16 6 1 3 38 1 1 7 2 2 2 3 7 3 A",
    "2 1E 1 3B 5 3 3 1 4 9 1 28 5 37 1 1 7 1 3 1 4 7 2 B 2 1D 3 38 1 1 7 1 3 1 4 7 2 B 2 F 1 C 4",
    "37 2 1 7 1 3 1 4 9 1 A 2 1D 3 46 1 4 6 1 1 1 8 12 2 3D 1 2 7 C 8 62 1 2 9 B 7 49 2 1B 1 1 1",
    "1 1 4 2 31 14 1 2 5 B 1 24 9 1 64 14 17 4 4 3 1 3 2 7 3 4 D C 1 1 A 4 2BF 3 3B2 4 1C 3 1D 2",
    "1E 2 40 20 9 1 2D 3 1 1 75 2 22 1 76 C 4 C DB 5 39 A 1 1D 2 1 30 1F 31 5 2F 11 26 9 C 3 1E D",
    "38 E 30 14 98 3 1 15 4 1 6 1 2 3 C6 40 2D0 21 BFE 3 8D 1 60 20 22A 6 69 2 75D4 4 1 A 20 2 50",
    "2 110 1 3 1 4 1 17 5 4 1 53 2 32 12 1A 12 D 1 26 8 19 D 2C 4 2F E 24 1 43 E C 1 8 2 2D 3 32",
    "1 1 3 2 2 5 2 1 1 29 5 5 2 EC 8 1 2 4F30 1 2E1 10 10 10 3CD 1 E2 1 95 5 686 3 1 2 5 4 28 3 4",
    "1 A5 2 23D 4 183 2 50 3 46 B 31 4 7A 3 35 F 29 1 2 2 A 4 2D B 7 1 3D 3 24 E 10 2 2C 1 C 3 30",
    "E 8 4 1 2 5C C 6 1 2 1 9D C 15 4 37 2 1 7 2 2 2 3 9 1 A 2 2 7 3 5 C0 12 17 1 51 14 EB 7 2 9",
    "1B 2 52 11 6A D 65 F 100 F F5 6 1 2 2 4 1 1 1 2 8D 7 2 7 3 1 1C A 28 7 1 4 8 1 9 B 2E 10 195",
    "8 1 8 52 16 1 E 7A 6 3 1 1 2 1 7 1 1 42 5 1 2 1 5 15B 4 9 2 1 1 30 7 3 5 14FD 1 6 F 369A 5",
    "3B 7 418 1 1 37 7 4 51 1 B 2 4CAB 2 1261 2E 2 17 21E 5 3 6 8 8 2 7 1E 4 94 3 7BB 37 4 32 8 1",
    "E 1 16 5 1 F 550 7 1 11 2 7 1 2 1 5 64 1 A0 7 177 1 3D 4 1FC 4 3E0 7 6D 7 C17B5 F0"]

def marks : Ranges := .ofRuns markRuns

/-- A mark: a character that is written on, around or after another one. -/
def isMark (c : Char) : Bool :=
  c.toNat ≥ 0x300 && marks.contains c

def combiningRuns : List String :=
  ["300: 15:230 1:232 4:220 1:232 1:216 5:220 2:202 4:220 2:202 B:220 5:1 4:220 8:230 1:240",
    "1:230 3:220 3:230 2:220 1: 3:230 4:220 1:230 1:232 2:220 1:230 1:233 2:234 1:233 2:234 1:233",
    "D:230 113: 5:230 109: 1:220 4:230 1:220 3:230 1:222 1:220 6:230 6:220 2:230 1:220 2:230",
    "1:222 1:228 1:230 1:10 1:11 1:12 1:13 1:14 1:15 1:16 1:17 1:18 2:19 1:20 1:21 1:22 1: 1:23",
    "1: 1:24 1:25 1: 1:230 1:220 1: 1:18 48: 8:230 1:30 1:31 1:32 30: 1:27 1:28 1:29 1:30 1:31",
    "1:32 1:33 1:34 2:230 2:220 5:230 1:220 2:230 1:220 10: 1:35 65: 7:230 2: 4:230 1:220 1:230",
    "2: 2:230 1: 1:220 2:230 1:220 23: 1:36 1E: 1:230 1:220 2:230 1:220 2:230 3:220 1:230 2:220",
    "1:230 1:220 3:230 1:220 1:230 1:220 1:230 1:220 1:230 1:220 2:230 A0: 7:230 1:220 1:230 9:",
    "1:220 18: 4:230 1: 9:230 1: 3:230 1: 5:230 2B: 3:220 3C: 1:230 3:220 4:230 2A: 5:230 5:220",
    "E:230 1: 1:220 2:230 1:220 2:230 1:220 3:230 3:220 1:27 1:28 1:29 3:230 1:220 2:230 2:220",
    "5:230 3C: 1:7 10: 1:9 3: 1:230 1:220 2:230 67: 1:7 10: 1:9 30: 1:230 3D: 1:7 10: 1:9 6E: 1:7",
    "10: 1:9 6E: 1:7 10: 1:9 7F: 1:9 6E: 1:7 10: 1:9 7: 1:84 1:91 65: 1:7 10: 1:9 6D: 2:9 10: 1:9",
    "7C: 1:9 6D: 2:103 1:9 D: 4:107 6C: 2:118 1:9 D: 4:122 4C: 2:220 1B: 1:220 1: 1:220 1: 1:216",
    "37: 1:129 1:130 1: 1:132 5: 4:130 2: 1:130 1: 2:230 1:9 1: 2:230 3E: 1:220 70: 1:7 1: 2:9",
    "52: 1:220 2CF: 3:230 3B4: 2:9 1E: 1:9 9D: 1:9 A: 1:230 CB: 1:228 8F: 1:222 1:230 1:220 DB:",
    "1:230 1:220 47: 1:9 14: 8:230 2: 1:220 30: 5:230 6:220 2:230 1:220 1: 2:220 2:230 2:220",
    "5:230 1:220 4:230 65: 1:7 F: 1:9 26: 1:230 1:220 7:230 36: 2:9 3A: 1:7 B: 2:9 43: 1:7 98:",
    "3:230 1: 1:1 5:220 2:230 4:220 1:230 1: 7:1 4: 1:220 6: 1:230 3: 2:230 C6: 2:230 1:220 7:230",
    "1:220 2:230 1:234 1:214 1:220 1:202 25:230 1:232 2:228 1:220 1:218 1:230 1:233 1:220 1:230",
    "1:220 2D0: 2:230 2:1 4:230 3:1 2:230 4: 1:230 3: 2:1 1:230 1:220 1:230 2:1 4:220 1:230 BFE:",
    "3:230 8D: 1:9 60: 20:230 22A: 1:218 1:228 1:232 1:222 2:224 69: 2:8 75D4: 1:230 4: A:230 20:",
    "2:230 50: 2:230 114: 1:9 25: 1:9 97: 1:9 1B: 12:230 39: 3:220 25: 1:9 5F: 1:7 C: 1:9 EF:",
    "1:230 1: 2:230 1:220 2: 2:230 5: 2:230 1: 1:230 34: 1:9 F6: 1:9 4F30: 1:26 301: 7:230 7:220",
    "2:230 3CD: 1:220 E2: 1:220 95: 5:230 692: 1:220 1: 1:230 28: 1:230 1:1 1:220 4: 1:9 A5:",
    "1:230 1:220 23D: 4:230 183: 2:230 50: 3:220 46: 2:220 3:230 1:220 1:230 4:220 31: 1:230",
    "1:220 1:230 1:220 C0: 1:9 29: 1:9 E: 1:9 39: 1:9 1:7 45: 3:230 30: 2:9 3E: 1:7 4C: 1:9 9:",
    "1:7 6A: 1:9 1:7 B2: 1:7 1:9 50: 2:7 10: 1:9 18: 7:230 3: 5:230 CD: 1:9 3: 1:7 17: 1:230 63:",
    "1:9 1:7 FB: 1:9 1:7 7E: 1:9 76: 1:9 1:7 73: 1:9 10D: 1:9 1:7 102: 2:9 4: 1:7 9C: 1:9 53: 1:9",
    "12: 1:9 51: 1:9 1A5: 1:9 102: 1:7 1: 2:9 51: 1:9 1A9: 2:9 4BAD: 5:1 3B: 7:230 4B9: 2:6 4CAC:",
    "1:1 14C6: 2:216 3:1 3: 1:226 5:216 8: 8:220 2: 5:230 2:220 1E: 4:230 94: 3:230 DBB: 7:230 1:",
    "11:230 2: 7:230 1: 2:230 1: 5:230 64: 1:230 A0: 7:230 177: 1:230 3D: 4:230 1FC: 2:232 1:220",
    "1:230 3E0: 7:220 6D: 6:230 1:7"]

def combiningClasses : Classes Nat :=
  .ofRuns (fun name => (name.toNat?).getD 0) combiningRuns

def combiningClass (c : Char) : Nat :=
  if c.toNat < 0x300 then 0 else combiningClasses.get c 0

/-- The class of the signs that take the vowel from a consonant. -/
def viramaClass : Nat := 9

end ConfigStack.Unicode
