import ConfigStack.Unicode.Ranges

/-!
# Joining of letters

Whether a letter of a cursive script is joined to the letters beside it.
-/
namespace ConfigStack.Unicode

/-- To which sides a character is joined. -/
inductive Joining where
  | none
  | left
  | right
  | both
  /-- Joined as if the character were not there. -/
  | transparent
  | causing
  deriving DecidableEq, Repr, Inhabited

/-- The joining with the short name; none for the empty one. -/
def Joining.ofName (name : String) : Joining :=
  match name with
  | "L" => .left
  | "R" => .right
  | "D" => .both
  | "T" => .transparent
  | "C" => .causing
  | _ => .none

def joiningRuns : List String :=
  ["AD: 1:T 252: 70:T 113: 7:T 107: 2D:T 1: 1:T 1: 2:T 1: 2:T 1: 1:T 48: B:T 1: 1:T 3: 1:D 1:",
    "4:R 1:D 1:R 1:D 1:R 5:D 4:R D:D 1:C 7:D 1:R 2:D 15:T E: 2:D 1:T 3:R 1: 3:R 10:D 12:R 26:D",
    "1:R 2:D 9:R 1:D 1:R 1:D 1:R 2:D 2:R 1: 1:R 7:T 2: 6:T 2: 2:T 1: 4:T 2:R A: 3:D 2: 1:D F: 1:T",
    "1:R 1:T 3:D 5:R 4:D 1:R 9:D 1:R 1:D 1:R 1:D 1:R 2:D 1:R 1B:T 2: 1:R B:D 3:R F:D 2:R 4:D 1:R",
    "1:D 2:R 3:D 2:R 6:D 26: B:T 19: 21:D 9:T 6: 1:C 2: 1:T 18: 4:T 1: 9:T 1: 3:T 1: 5:T 12: 1:R",
    "5:D 2:R 1:D 1:R A:D 1:R 1:D 3:R 3:T 4: 1:D 1: 4:D 1: 1:R 1:D 2:R 5: 13:R 3:C 1:D 2: 5:D 1:R",
    "9: 8:T A:D 3:R 1: 1:R 2:D 2:R 6:D 1:R F:D 1: 18:T 1: 20:T 37: 1:T 1: 1:T 4: 8:T 4: 1:T 3:",
    "7:T A: 2:T 1D: 1:T 3A: 1:T 4: 4:T 8: 1:T 14: 2:T 1A: 1:T 2: 2:T 39: 1:T 4: 2:T 4: 2:T 2: 3:T",
    "3: 1:T 1E: 2:T 3: 1:T B: 2:T 39: 1:T 4: 5:T 1: 2:T 4: 1:T 14: 2:T 16: 6:T 1: 1:T 3A: 1:T 2:",
    "1:T 1: 4:T 8: 1:T 7: 2:T B: 2:T 1E: 1:T 3D: 1:T C: 1:T 32: 1:T 3: 1:T 37: 1:T 1: 3:T 5: 3:T",
    "1: 4:T 7: 2:T B: 2:T 1D: 1:T 3A: 1:T 2: 1:T 6: 1:T 5: 2:T 14: 2:T 1C: 2:T 39: 2:T 4: 4:T 8:",
    "1:T 14: 2:T 1D: 1:T 48: 1:T 7: 3:T 1: 1:T 5A: 1:T 2: 7:T C: 8:T 62: 1:T 2: 9:T B: 7:T 49:",
    "2:T 1B: 1:T 1: 1:T 1: 1:T 37: E:T 1: 5:T 1: 2:T 5: B:T 1: 24:T 9: 1:T 66: 4:T 1: 6:T 1: 2:T",
    "2: 2:T 19: 2:T 4: 3:T 10: 4:T D: 1:T 2: 2:T 6: 1:T F: 1:T 2BF: 3:T 3B2: 3:T 1D: 2:T 1E: 2:T",
    "1E: 2:T 40: 2:T 1: 7:T 8: 1:T 2: B:T 9: 1:T 29: 1:D 2: 1:C 3:T 1: 1:T 10: 59:D C: 2:T 22:D",
    "1:T 1:D 75: 3:T 4: 2:T 9: 1:T 6: 3:T DB: 2:T 2: 1:T 3A: 1:T 1: 7:T 1: 1:T 1: 1:T 2: 8:T 6:",
    "A:T 2: 1:T 30: 1F:T 31: 4:T 30: 1:T 1: 5:T 1: 1:T 5: 1:T 28: 9:T C: 2:T 20: 4:T 2: 2:T 1:",
    "3:T 38: 1:T 1: 2:T 3: 1:T 1: 3:T 3A: 8:T 2: 2:T 98: 3:T 1: D:T 1: 7:T 4: 1:T 6: 1:T 3: 2:T",
    "C6: 40:T 20B: 1:T 1: 1:C 2:T 1A: 5:T 31: 5:T 5: 6:T 60: 21:T BFE: 3:T 8D: 1:T 60: 20:T 22A:",
    "4:T 6B: 2:T 75D4: 4:T 1: A:T 20: 2:T 50: 2:T 110: 1:T 3: 1:T 4: 1:T 19: 2:T 5: 1:T 13: 32:D",
    "1:L 51: 2:T 1A: 12:T D: 1:T 26: 8:T 19: B:T 2E: 3:T 30: 1:T 2: 4:T 2: 2:T 27: 1:T 43: 6:T 2:",
    "2:T 2: 2:T C: 1:T 8: 1:T 2F: 1:T 33: 1:T 1: 3:T 2: 2:T 5: 2:T 1: 1:T 2A: 2:T 8: 1:T EE: 1:T",
    "2: 1:T 4: 1:T 4F30: 1:T 2E1: 10:T 10: 10:T CF: 1:T F9: 3:T 201: 1:T E2: 1:T 95: 5:T 686: 3:T",
    "1: 2:T 5: 4:T 28: 3:T 4: 1:T 80: 5:D 1:R 1: 1:R 1: 2:R 2: 1:L 5:R 4:D 1:L 5:D 1:R 3:D 1:R 2:",
    "1:R 2:T 4: 4:D 1:R 90: 1:D 1:R 1:D 3:R 3:D 1:R 2:D 1:R 1:D 2:R 1:D 1:R 17: 4:R 2:D 151: 1:L",
    "21:D 1:R 1:D 4:T 183: 2:T 50: 3:T 30: 3:D 1:R 11:D 1: B:T 3:D 1:R 1B: 4:D 2:R C:D 4:T 2A:",
    "1:D 1: 2:D 3:R 1: 1:D 2:R 2:D 1:R 2:D 1: 1:D 2:R 1:D 4: 1:R 1:D 1:L 35: 1:T 36: F:T 29: 1:T",
    "2: 2:T A: 3:T 31: 4:T 2: 2:T 7: 1:T 3D: 3:T 24: 5:T 1: 8:T 3E: 1:T C: 2:T 34: 9:T A: 4:T 2:",
    "1:T 5F: 3:T 2: 1:T 1: 2:T 6: 1:T 2: 1:T 9D: 1:T 3: 8:T 15: 2:T 39: 2:T 3: 1:T 25: 7:T 3: 5:T",
    "C3: 8:T 2: 3:T 1: 1:T 17: 1:T 54: 6:T 1: 1:T 4: 2:T 1: 2:T EE: 4:T 6: 2:T 1: 2:T 1B: 2:T 55:",
    "8:T 2: 1:T 1: 2:T 6A: 1:T 1: 1:T 2: 6:T 1: 1:T 65: 3:T 2: 4:T 1: 5:T 103: 9:T 1: 2:T 100:",
    "2:T 1: 1:T 4: 1:T 90: 4:T 2: 2:T 4: 1:T 20: A:T 28: 6:T 2: 4:T 8: 1:T 9: 6:T 2: 3:T 2E: D:T",
    "1: 2:T 196: 7:T 1: 6:T 1: 1:T 52: 16:T 2: 7:T 1: 2:T 1: 2:T 7A: 6:T 3: 1:T 1: 2:T 1: 7:T 1:",
    "1:T 48: 2:T 3: 1:T 1: 1:T 15B: 2:T B: 2:T 34: 5:T 5: 1:T 1: 1:T 14ED: 11:T 6: F:T 369A: 5:T",
    "3B: 7:T 418: 1:T 3F: 4:T 51: 1:T 4CB8: 2:T 1: 4:T 125C: 2E:T 2: 17:T 220: 3:T 9: 10:T 2: 7:T",
    "1E: 4:T 94: 3:T 7BB: 37:T 4: 32:T 8: 1:T E: 1:T 16: 5:T 1: F:T 550: 7:T 1: 11:T 2: 7:T 1:",
    "2:T 1: 5:T 64: 1:T A0: 7:T 177: 1:T 3D: 4:T 1FC: 4:T 3E0: 7:T 29: 44:D 8:T C16B5: 1:T 1E:",
    "60:T 80: F0:T"]

def joinings : Classes Joining := .ofRuns Joining.ofName joiningRuns

def joiningOf (c : Char) : Joining :=
  joinings.get c .none

end ConfigStack.Unicode
