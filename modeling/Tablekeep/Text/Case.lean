import Tablekeep.Text.CaseTable

/-!
# Upper and lower case

Both mappings are the full ones: one character may become several, and a capital sigma becomes a
final small sigma after a letter that no letter follows. Two names are the same name when their
lower cases are equal.
-/

namespace Tablekeep.Text

/-! ## Tables -/

/-- The code point lies in one of the runs. -/
def inRuns (runs : List (Nat × Nat)) (n : Nat) : Bool :=
  runs.any fun (first, last) => first ≤ n && n ≤ last

/-- The image of a code point under a table of runs. -/
def shifted? (runs : List (Nat × Nat × Nat × Nat)) (n : Nat) : Option Char :=
  (runs.find? fun (first, last, step, _) => first ≤ n && n ≤ last && (n - first) % step == 0).map
    fun (first, _, _, image) => Char.ofNat (image + (n - first))

/-- The image of a character under a table of sequences and a table of runs; a character that
stands in neither stays. -/
def mapped (sequences : List (Nat × List Nat)) (runs : List (Nat × Nat × Nat × Nat)) (c : Char) :
    List Char :=
  match sequences.lookup c.toNat with
  | some image => image.map Char.ofNat
  | none => [(shifted? runs c.toNat).getD c]

/-! ## Upper case -/

/-- The upper case of one character. -/
def upperChar (c : Char) : List Char :=
  if c.toNat < 0x80 then [c.toUpper] else mapped upperSequences upperRuns c

/-- The upper case of a text. -/
def upper (s : String) : String :=
  String.ofList (s.toList.flatMap upperChar)

/-! ## Lower case -/

/-- The lower case of one character, away from the end of a word. -/
def lowerChar (c : Char) : List Char :=
  if c.toNat < 0x80 then [c.toLower] else mapped lowerSequences lowerRuns c

/-- The first character that is not looked through has a case. -/
def meetsCased (cs : List Char) : Bool :=
  match cs.dropWhile fun c => inRuns caseIgnorableRuns c.toNat with
  | [] => false
  | c :: _ => inRuns casedRuns c.toNat

/-- The capital sigma, whose lower case depends on its place. -/
def capitalSigma : Char := '\u03a3'

/-- The lower case of the characters still to come; `before` holds those that came, last first. -/
def lowerFrom (before : List Char) : List Char → List Char
  | [] => []
  | c :: cs =>
    let image :=
      if c = capitalSigma then
        if meetsCased before && !meetsCased cs then ['\u03c2'] else ['\u03c3']
      else lowerChar c
    image ++ lowerFrom (c :: before) cs

/-- The lower case of a text. -/
def lower (s : String) : String :=
  String.ofList (lowerFrom [] s.toList)

/-- The two names differ in letter case at most. -/
def sameName (a b : String) : Bool :=
  lower a == lower b

end Tablekeep.Text
