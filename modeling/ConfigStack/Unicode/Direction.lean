import ConfigStack.Unicode.Ranges

/-!
# Direction of writing

The class of a character by the direction in which it is written, with only as many classes told
apart as the rule for domain names needs.
-/
namespace ConfigStack.Unicode

/-- How a character takes part in the direction of a text. -/
inductive Direction where
  | left
  | right
  | arabicLetter
  | arabicNumber
  | europeanNumber
  | mark
  /-- A separator or terminator of numbers, a neutral character, or one without an effect. -/
  | weak
  /-- A separator of segments or paragraphs, a blank, or a sign that changes the direction. -/
  | other
  deriving DecidableEq, Repr, Inhabited

/-- The direction with the short name; left to right for the empty one. -/
def Direction.ofName (name : String) : Direction :=
  match name with
  | "R" => .right
  | "AL" => .arabicLetter
  | "AN" => .arabicNumber
  | "EN" => .europeanNumber
  | "NSM" => .mark
  | "W" => .weak
  | "O" => .other
  | _ => .left

def directionRuns : List String :=
  ["9:W 5:O E:W 5:O F:W A:EN 7:W 1A: 6:W 1A: A:W 1:O 24:W 1: 7:W 2:EN 1:W 1: 3:W 1:EN 1: 5:W 17:",
    "1:W 1F: 1:W 1C1: 2:W 7: E:W 2: E:W 5: 9:W 1: 11:W 70:NSM 4: 2:W 8: 1:W 5: 2:W 1: 1:W 6E: 1:W",
    "8C: 7:NSM 100: 1:W 2: 3:W 1:R 2D:NSM 1:R 1:NSM 1:R 2:NSM 1:R 2:NSM 1:R 1:NSM 38:R 6:AN 2:W",
    "1:AL 2:W 1:AL 1:W 1:AL 2:W B:NSM 30:AL 15:NSM A:AN 1:W 2:AN 3:AL 1:NSM 65:AL 7:NSM 1:AN 1:W",
    "6:NSM 2:AL 2:NSM 1:W 4:NSM 2:AL A:EN 17:AL 1:NSM 1E:AL 1B:NSM 5B:AL B:NSM F:AL 2B:R 9:NSM",
    "2:R 4:W 3:R 1:NSM 18:R 4:NSM 1:R 9:NSM 1:R 3:NSM 1:R 5:NSM 2B:R 3:NSM 4:R 30:AL 2:AN 6:AL",
    "8:NSM 2A:AL 18:NSM 1:AN 20:NSM 37: 1:NSM 1: 1:NSM 4: 8:NSM 4: 1:NSM 3: 7:NSM A: 2:NSM 1D:",
    "1:NSM 3A: 1:NSM 4: 4:NSM 8: 1:NSM 14: 2:NSM E: 2:W 7: 1:W 2: 1:NSM 2: 2:NSM 39: 1:NSM 4:",
    "2:NSM 4: 2:NSM 2: 3:NSM 3: 1:NSM 1E: 2:NSM 3: 1:NSM B: 2:NSM 39: 1:NSM 4: 5:NSM 1: 2:NSM 4:",
    "1:NSM 14: 2:NSM D: 1:W 8: 6:NSM 1: 1:NSM 3A: 1:NSM 2: 1:NSM 1: 4:NSM 8: 1:NSM 7: 2:NSM B:",
    "2:NSM 1E: 1:NSM 3D: 1:NSM C: 1:NSM 25: 8:W 5: 1:NSM 3: 1:NSM 37: 1:NSM 1: 3:NSM 5: 3:NSM 1:",
    "4:NSM 7: 2:NSM B: 2:NSM 14: 7:W 2: 1:NSM 3A: 1:NSM F: 2:NSM 14: 2:NSM 1C: 2:NSM 39: 2:NSM 4:",
    "4:NSM 8: 1:NSM 14: 2:NSM 1D: 1:NSM 48: 1:NSM 7: 3:NSM 1: 1:NSM 5A: 1:NSM 2: 7:NSM 4: 1:W 7:",
    "8:NSM 62: 1:NSM 2: 9:NSM B: 7:NSM 49: 2:NSM 1B: 1:NSM 1: 1:NSM 1: 1:NSM 4:W 33: E:NSM 1:",
    "5:NSM 1: 2:NSM 5: B:NSM 1: 24:NSM 9: 1:NSM 66: 4:NSM 1: 6:NSM 1: 2:NSM 2: 2:NSM 19: 2:NSM 4:",
    "3:NSM 10: 4:NSM D: 1:NSM 2: 2:NSM 6: 1:NSM F: 1:NSM 2BF: 3:NSM 30: A:W 66: 1:W 27F: 1:O 1A:",
    "2:W 75: 3:NSM 1D: 2:NSM 1E: 2:NSM 1E: 2:NSM 40: 2:NSM 1: 7:NSM 8: 1:NSM 2: B:NSM 7: 1:W 1:",
    "1:NSM 12: A:W 6: B:W 3:NSM 1:W 1:NSM 75: 2:NSM 22: 1:NSM 76: 3:NSM 4: 2:NSM 9: 1:NSM 6:",
    "3:NSM 4: 1:W 3: 2:W 98: 22:W 17: 2:NSM 2: 1:NSM 3A: 1:NSM 1: 7:NSM 1: 1:NSM 1: 1:NSM 2:",
    "8:NSM 6: A:NSM 2: 1:NSM 30: 1F:NSM 31: 4:NSM 30: 1:NSM 1: 5:NSM 1: 1:NSM 5: 1:NSM 28: 9:NSM",
    "C: 2:NSM 20: 4:NSM 2: 2:NSM 1: 3:NSM 38: 1:NSM 1: 2:NSM 3: 1:NSM 1: 3:NSM 3A: 8:NSM 2: 2:NSM",
    "98: 3:NSM 1: D:NSM 1: 7:NSM 4: 1:NSM 6: 1:NSM 3: 2:NSM C6: 40:NSM 1BD: 1:W 1: 3:W B: 3:W D:",
    "3:W D: 3:W D: 2:W 1: B:O 3:W 1: 1:R 18:W 7:O 30:W 1:O 6:W 4:O 6:W 1:EN 3: 6:EN 5:W 1: A:EN",
    "5:W 11: 30:W 21:NSM F: 2:W 1: 4:W 1: 2:W A: 1:W 1: 3:W 5: 6:W 1: 1:W 1: 1:W 1: 1:W 4: 1:W B:",
    "2:W 4: 5:W 5: 4:W 2: 10:W 29: 3:W 4: 1A6:W 45: 1A:W 1: 91:W 19: B:W 15: 28:W 14:EN 4E: 1C2:W",
    "1: 153:W 100: 274:W 2: 20:W 1: 69:W E5: 6:W 4: 3:NSM 7: 7:W 7F: 1:NSM 60: 20:NSM 5E:W 22:",
    "1A:W 1: 59:W C: D6:W 1A: C:W 4: 1:O 4:W 3: 19:W 9: 4:NSM 2: 1:W 5: 2:W 5: 3:W 59: 2:NSM 2:W",
    "3: 1:W 5A: 1:W C4: 24:W 39: 2:W 31: 10:W 1C: 3:W 32: F:W C: 4:W A7: 4:W 63: 2:W 1F: 1:W",
    "19C0: 40:W 5690: 37:W 146: 3:W 5F: 4:NSM 1:W A:NSM 2:W 1E: 2:NSM 50: 2:NSM E: 22:W 66: 1:W",
    "79: 1:NSM 3: 1:NSM 4: 1:NSM 19: 2:NSM 1: 4:W 1:NSM B: 2:W 3A: 4:W 4C: 2:NSM 1A: 12:NSM D:",
    "1:NSM 26: 8:NSM 19: B:NSM 2E: 3:NSM 30: 1:NSM 2: 4:NSM 2: 2:NSM 27: 1:NSM 43: 6:NSM 2: 2:NSM",
    "2: 2:NSM C: 1:NSM 8: 1:NSM 2F: 1:NSM 33: 1:NSM 1: 3:NSM 2: 2:NSM 5: 2:NSM 1: 1:NSM 2A: 2:NSM",
    "8: 1:NSM 73: 2:W 79: 1:NSM 2: 1:NSM 4: 1:NSM 4F2F: 1:R 1:NSM A:R 1:W 26:R 1EE:AL 12:W 7F:AL",
    "21:W D:AL 3:W 10:NSM A:W 6: 10:NSM 23:W 1: 13:W 1: 4:W 4: 8F:AL 1:W 1: F:W A:EN 7:W 1A: 6:W",
    "1A: B:W 7A: 7:W 1: 7:W 1: 10:W 101: 1:W 3E: 4D:W 3: D:W 3: 1:W 5C: 1:NSM E2: 1:NSM 1B:EN 7A:",
    "5:NSM 485: 11F:R 1:W E1:R 3:NSM 1:R 2:NSM 5:R 4:NSM 28:R 3:NSM 4:R 1:NSM A5:R 2:NSM 52:R 7:W",
    "1C0:R 24:AL 4:NSM 8:AL A:AN 6:AL 120:R 1F:AN 2C:R 2:NSM 13:R 3D:AL 3:NSM 30:R 16:AL B:NSM",
    "1F:AL 12:R 4:NSM 7A:R 1: 1:NSM 36: F:NSM B: 14:W A: 1:NSM 2: 2:NSM A: 3:NSM 31: 4:NSM 2:",
    "2:NSM 7: 1:NSM 3D: 3:NSM 24: 5:NSM 1: 8:NSM 3E: 1:NSM C: 2:NSM 34: 9:NSM A: 4:NSM 2: 1:NSM",
    "5F: 3:NSM 2: 1:NSM 1: 2:NSM 6: 1:NSM 2: 1:NSM 9D: 1:NSM 3: 8:NSM 15: 2:NSM 39: 2:NSM 3:",
    "1:NSM 25: 7:NSM 3: 5:NSM C3: 8:NSM 2: 3:NSM 1: 1:NSM 17: 1:NSM 54: 6:NSM 1: 1:NSM 4: 2:NSM",
    "1: 2:NSM EE: 4:NSM 6: 2:NSM 1: 2:NSM 1B: 2:NSM 55: 8:NSM 2: 1:NSM 1: 2:NSM 1F: D:W 3E: 1:NSM",
    "1: 1:NSM 2: 6:NSM 1: 1:NSM 65: 3:NSM 2: 4:NSM 1: 5:NSM 103: 9:NSM 1: 2:NSM 100: 2:NSM 1:",
    "1:NSM 4: 1:NSM 90: 4:NSM 2: 2:NSM 4: 1:NSM 20: 6:NSM 2: 2:NSM 28: 6:NSM 2: 4:NSM 8: 1:NSM 9:",
    "6:NSM 2: 3:NSM 2E: D:NSM 1: 2:NSM 196: 7:NSM 1: 6:NSM 54: 16:NSM 2: 7:NSM 1: 2:NSM 1: 2:NSM",
    "7A: 6:NSM 3: 1:NSM 1: 2:NSM 1: 7:NSM 1: 1:NSM 48: 2:NSM 3: 1:NSM 1: 1:NSM 15B: 2:NSM B:",
    "2:NSM 34: 5:NSM 5: 1:NSM 1: 1:NSM 92: 1D:W 144E: 1:NSM 6: F:NSM 369A: 5:NSM 3B: 7:NSM 418:",
    "1:NSM 3F: 4:NSM 4F: 1:W 1: 1:NSM 4CB8: 2:NSM 1: 4:W 125C: 2E:NSM 2: 17:NSM 220: 3:NSM 9: 8:W",
    "8:NSM 2: 7:NSM 1E: 4:NSM 3B: 2:W 15: 42:W 3:NSM 1:W BA: 57:W 384: 1:W 39: 1:W 39: 1:W 39:",
    "1:W 39: 1:W A: 32:EN 200: 37:NSM 4: 32:NSM 8: 1:NSM E: 1:NSM 16: 5:NSM 1: F:NSM 550: 7:NSM",
    "1: 11:NSM 2: 7:NSM 1: 2:NSM 1: 5:NSM 64: 1:NSM A0: 7:NSM 177: 1:NSM 3D: 4:NSM F: 1:W 1EC:",
    "4:NSM 310: D0:R 7:NSM 6D:R 7:NSM 325:R 50:AL 40:R 50:AL B0:R F0:AL 2:W E:AL 100:R 2C:W 4:",
    "64:W C: F:W 2: F:W 1: F:W 1: 25:W A: B:EN 5:W 1F: 1:W 3A: 6:W 3D: 1:W B2: 6:W 9A: 3D8:W 4:",
    "11:W 3: D:W 3: 77:W 4: 5F:W 6: C:W 4: 1:W F: C:W 4: 38:W 8: A:W 6: 28:W 8: 1E:W 2: 2:W 4E:",
    "154:W C: E:W 2: D:W 3: 9:W 7: 2E:W 1: 7:W 8: E:W 4: 9:W 7: 9:W 7: 93:W 1: 37:W 25: A:EN 404:",
    "2:W FFFE: 2:W FFFE: 2:W FFFE: 2:W FFFE: 2:W FFFE: 2:W FFFE: 2:W FFFE: 2:W FFFE: 2:W FFFE:",
    "2:W FFFE: 2:W FFFE: 2:W FFFE: 102:W F0:NSM E10:W EFFE: 2:W FFFE: 2:W FFFE: 2:W"]

def directions : Classes Direction := .ofRuns Direction.ofName directionRuns

def directionOf (c : Char) : Direction :=
  directions.get c .left

end ConfigStack.Unicode
