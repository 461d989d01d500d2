import EventConsistency.Lib.Python

/-!
# Regular expressions

`re.search` of a pattern without groups or anchors, by derivatives: `Regex.deriv c r` is what is left of `r` after `c`,
`matchesStart` takes a text one character at a time and `search` tries every place. Letters are matched as under
`re.IGNORECASE`, with the four characters outside ASCII that Python takes for a letter of ASCII.
-/

namespace EventConsistency.Lib.Python

inductive Regex where
  | fail
  | eps
  | char (p : Nat → Bool)
  | seq (r s : Regex)
  | alt (r s : Regex)
  | star (r : Regex)

namespace Regex

/-- `r` matches the empty text. -/
def nullable : Regex → Bool
  | .fail => false
  | .eps => true
  | .char _ => false
  | .seq r s => r.nullable && s.nullable
  | .alt r s => r.nullable || s.nullable
  | .star _ => true

/-- `seq` and `alt` that drop what cannot match. -/
def mkSeq : Regex → Regex → Regex
  | .fail, _ => .fail
  | .eps, s => s
  | r, s => .seq r s

def mkAlt : Regex → Regex → Regex
  | .fail, s => s
  | r, .fail => r
  | r, s => .alt r s

def deriv (c : Nat) : Regex → Regex
  | .fail => .fail
  | .eps => .fail
  | .char p => if p c then .eps else .fail
  | .seq r s => if r.nullable then mkAlt (mkSeq (r.deriv c) s) (s.deriv c) else mkSeq (r.deriv c) s
  | .alt r s => mkAlt (r.deriv c) (s.deriv c)
  | .star r => mkSeq (r.deriv c) (.star r)

/-- `re.match(r, s)`: some beginning of `s` is matched. -/
def matchesStart (r : Regex) : Text → Bool
  | [] => r.nullable
  | c :: s => r.nullable || (r.deriv c).matchesStart s

/-- `re.search(r, s)`. -/
def search (r : Regex) : Text → Bool
  | [] => r.nullable
  | c :: s => r.matchesStart (c :: s) || r.search s

/-- The letter that a character is compared as. -/
def foldCase (c : Nat) : Nat :=
  if 0x41 ≤ c ∧ c ≤ 0x5A then c + 0x20
  else if c = 0x130 ∨ c = 0x131 then 0x69
  else if c = 0x17F then 0x73
  else if c = 0x212A then 0x6B
  else c

def literal (s : String) : Regex :=
  (text s).foldr (fun c r => .seq (.char fun x => foldCase x == foldCase c) r) .eps

/-- `[...]` of these characters, and `[^...]`. -/
def oneOf (s : String) : Regex := .char fun x => (text s).any fun c => foldCase x == foldCase c

def noneOf (s : String) : Regex := .char fun x => !(text s).any fun c => foldCase x == foldCase c

/-- `r?`, `r+`, and the pattern of a list of patterns. -/
def opt (r : Regex) : Regex := .alt r .eps

def plus (r : Regex) : Regex := .seq r (.star r)

def concat (rs : List Regex) : Regex := rs.foldr .seq .eps

def anyOf (rs : List Regex) : Regex := rs.foldr .alt .fail

/-- `\s` and `\S`. -/
def space (rt : Runtime) : Regex := .char rt.isSpace

def nonSpace (rt : Runtime) : Regex := .char fun c => !rt.isSpace c

end Regex

end EventConsistency.Lib.Python
