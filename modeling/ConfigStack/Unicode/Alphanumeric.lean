import ConfigStack.Unicode.Ranges

/-!
# Letters and numbers

The characters that are alphabetic or a number of any kind.
-/
namespace ConfigStack.Unicode

/-- The alphabetic characters and the numbers, by runs. -/
def alphanumericRuns : List String :=
  ["30 A 7 1A 6 1A 2F 1 7 2 1 1 3 2 1 3 1 17 1 1F 1 1CA 4 C E 5 7 1 1 1 56 1 2A 5 1 2 2 4 1 1 6",
    "1 1 3 1 1 1 14 1 53 1 8B 8 A6 1 26 2 1 6 29 27 E 1 1 1 2 1 2 1 1 8 1B 4 4 1D B 5 38 1 11 4",
    "66 1 8 4 8 4 10 2 1 10 30 D 65 E 2B 9 2 4 1 5 18 2 13 13 19 7 B 5 18 1 6 11 2A A C 3 7 6 4C",
    "1 10 1 3 4 F 2 A 1 13 1 8 2 2 2 16 1 7 1 1 3 4 3 8 2 2 2 2 1 1 8 1 4 2 1 5 2 C 2 6 2 1 4 3 1",
    "6 4 2 2 16 1 7 1 2 1 2 1 2 4 5 4 2 2 2 4 1 7 4 1 1 7 10 B 3 1 9 1 3 1 16 1 7 1 2 1 5 3 9 1 3",
    "1 2 3 1 F 4 2 A 9 4 4 3 1 8 2 2 2 16 1 7 1 2 1 5 3 8 2 2 2 2 9 2 4 2 1 5 2 A 1 7 A 2 1 6 3 3",
    "1 4 3 2 1 1 1 2 3 2 3 3 3 C 4 5 3 3 1 3 3 1 6 1 E D D D 1 3 1 17 1 10 3 8 1 3 1 3 8 2 1 3 2",
    "1 2 4 2 A 8 7 1 4 1 8 1 3 1 17 1 A 1 5 3 8 1 3 1 3 8 2 6 2 1 4 2 A 1 3 C D 1 3 1 29 2 8 1 3",
    "1 3 1 1 5 10 2 13 1 6 1 3 1 12 3 18 1 9 1 1 2 7 8 6 1 1 1 8 6 A 2 2 D 3A 5 7 6 1 2 A 27 2 1",
    "1 1 5 1 18 1 1 1 13 1 3 2 5 1 1 6 1 2 A 2 4 20 1 1F 14 C 8 1 24 4 13 4 10 1 24 43 37 1 1 2 F",
    "6 4E 2 26 1 1 5 1 2 2B 1 14D 1 4 2 7 1 1 1 4 2 29 1 4 2 21 1 4 2 7 1 1 1 4 2 F 1 39 1 4 2 43",
    "E 14 3 10 10 56 2 6 3 26C 2 11 1 1A 5 4B 3 B 7 14 B 15 C 14 C D 1 3 1 2 C 34 2 13 E 1 4 1 3",
    "A 6 A 16 A 6 59 7 2B 5 46 A 1F 1 C 4 9 D 28 2 5 B 2C 4 1A 6 B 25 1C 4 3F 2 14 B A 6 A D 1 17",
    "2 B 3 31 34 1 F 1 8 3 A 26 2A 2 3A 1 B E 37 9 A 3 31 2 9 7 2B 2 3 29 4 1 6 1 2 3 1 5 C0 27 E",
    "B 116 2 6 2 26 2 6 2 8 1 1 1 1 1 1 1 1F 2 35 1 7 1 1 3 3 1 7 3 4 2 6 4 D 5 3 1 7 73 2 2 6 5",
    "B 6 D 65 1 4 1 2 A 1 1 3 5 6 1 1 1 1 1 1 4 1 B 2 4 5 5 4 1 1 3A 2D6 3C 1A 4A 276 1E 46C E5 6",
    "4 3 2 9 1 2 26 1 1 5 1 2 38 7 1 10 17 9 7 1 7 1 7 1 7 1 7 1 7 1 7 1 7 1 20 2F 1 1D5 3 19 9 7",
    "5 2 5 4 56 6 3 1 5A 1 4 5 2B 1 5E 3 4 A 20 30 10 20 A 1E 8 1 F 20 A 27 F 140 19C0 40 568D 43",
    "2E 2 10D 3 1C 14 2F 5 8 3 71 27 9 2 67 2 40 5 2 1 1 1 5 18 14 1 21 8 6 A 34 C 44 1 1 A A 18",
    "6 3 1 1 2E 5 23 D 1D 3 33 1 C F B 6 1F 1 37 9 E 2 A 6 17 3 45 1 1 1 1 18 3 2 10 2 4 B 6 2 6",
    "2 6 9 7 1 7 1 2B 1 E 6 7B 5 A 6 2BA4 C 17 4 31 2104 16E 2 6A 26 7 C 5 5 C 1 D 1 5 1 1 1 2 1",
    "2 1 6C 21 16B 12 40 2 36 28 C 74 5 1 87 13 A 7 1A 6 1A B 59 3 6 2 6 2 6 2 3 23 C 1 1A 1 13 1",
    "2 1 F 2 E 22 7B C 2D C 39 11 2 F4 1D 3 31 10 1B 4 24 9 1E 5 2B 5 1E 2 24 4 8 1 5 2A 9E 2 A 6",
    "24 4 24 4 28 8 34 C B 1 F 1 7 1 2 1 B 1 F 1 7 1 2 43 137 9 16 A 8 18 6 1 2A 1 9 45 6 2 1 1",
    "2C 1 2 3 1 2 17 2 1F 2 26 8 9 30 13 1 2 5 21 4 1A 46 38 4 14 2 32 1 2 5 8 1 3 1 1D A 9 17 1F",
    "1 20 20 8 1 1C 6 5 10 36 A 16 2 1B 5 1A 17 7 50 49 37 33 D 33 7 2E 8 A 126 1F 1 2A 1 2 3 2",
    "4E 28 8 16 B 4 1B 12 2E 1C 14 17 9 46 C 1E 1 5 A 39 9 1 D 19 7 A 6 33 3 A 4 4 8 23 3 1 9 40",
    "1 4 9 D 1 1 4 14 B 12 1 22 2 1 6 4 3E 7 1 1 1 4 1 F 1 A 7 39 7 A 6 4 1 8 2 2 2 16 1 7 1 2 1",
    "5 3 8 2 2 2 2 3 1 6 1 5 7 9C 42 1 3 1 4 5 A 5 3 1E 42 2 2 1 1 8 A A6 36 2 7 19 6 22 3F 1 1 3",
    "1 B A 26 36 2 1 7 A 36 1B 2 E 5 C 4 7 B9 39 67 53 C 8 2 1 2 8 1 2 1 1E 1 2 2 2 2 4 D A 46 8",
    "2 2E 2 6 1 1 1 2 1B 33 2 A 11 48 5 1 12 49 107 9 1 2D 1 7 1 1 F 1D 5 1E 2 16 1 E 49 7 1 2 1",
    "2C 3 1 1 2 1 3 1 1 2 2 8 A 6 6 1 2 1 25 1 2 1 4 1 1 7 A 136 17 9 11 1 29 3 3 F A 56 1 F 15",
    "2B 39A 66 6F 11 C4 A4C 61 F 430 11 6 FB9 247 21B9 239 7 1F 1 A 6 4F 1 A 6 1E 12 30 10 4 C A",
    "1 7 1 15 5 13 2B0 57 69 4B 4 39 7 11 40 2 1 1 C 2 E 17F8 8 4D6 2A 9 22E7 4 1 7 1 2 1 123 F 1",
    "1D 3 2 1 E 4 8 18C 904 6B 5 D 3 9 7 A 4 1 1621 14 C 14 6C 19 87 55 1 47 1 2 2 1 2 2 2 4 1 C",
    "1 1 1 7 1 41 1 4 2 8 1 7 1 1C 1 4 1 5 1 1 3 7 1 154 2 19 1 19 1 1F 1 19 1 1F 1 19 1 1F 1 19",
    "1 1F 1 19 1 8 2 32 700 1F 6 6 D5 7 1 11 2 7 1 2 1 5 5 3E 21 1 70 2D A 7 2 A 4 1 141 1E 12 2C",
    "4 A 1D6 1C 4 A 2E6 7 1 4 1 2 1 F 1 C5 2 9 30 44 3 1 3 1 4 A 317 3B 1 3 1 4 4C 2D 1 F C2 4 1",
    "1B 1 2 1 1 2 1 1 A 1 4 1 1 1 1 6 1 4 1 1 1 1 1 1 3 1 2 1 1 2 1 1 1 1 1 1 1 1 1 1 2 1 1 2 4 1",
    "7 1 4 1 4 1 1 1 A 1 11 5 3 1 5 1 11 244 D 23 1A 6 1A 6 1A A66 A 406 A6E0 20 103A 6 DE 2 1682",
    "E 1D31 C1F 21E 5E2 134B 5 1060"]

def alphanumerics : Ranges := .ofRuns alphanumericRuns

def isAlphanumeric (c : Char) : Bool :=
  if c.toNat < 0x80 then c.isAlphanum else alphanumerics.contains c

end ConfigStack.Unicode
