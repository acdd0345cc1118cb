import WordStrip.Text.Letter

/-!
# Upper and lower case

Upper-casing maps each character on its own, to one character or to several (`ß` to `SS`), so it is
a `flatMap`. Lower-casing does so too but for one letter: a capital sigma becomes the final form
when a cased letter stands before it and none after it, marks and apostrophes not counted. The walk
therefore carries whether the last character that counts was a cased letter.
-/

namespace WordStrip.Text

/-- The image of a code point under a case table: its expansion, else the code point moved by the
offset of its run, else itself. -/
def imageOf (pages : List (Nat × CasePage)) (n : Nat) : List Nat :=
  match page? pages n with
  | none => [n]
  | some page =>
    match page.expansions.lookup n with
    | some image => image
    | none =>
      match page.runs.find? fun run => run.covers n with
      | some run => [(n + run.offset).toNat]
      | none => [n]

/-- The capital form of a character. -/
def upperOf (c : Char) : List Char := (imageOf upperPages c.toNat).map Char.ofNat

/-- The small form of a character away from any context. -/
def lowerOf (c : Char) : List Char := (imageOf lowerPages c.toNat).map Char.ofNat

/-! ## Texts -/

/-- The characters in upper case. -/
def upperChars (cs : List Char) : List Char := cs.flatMap upperOf

/-- Whether the first character that casing does not look past is a cased letter. -/
def leadsWithCased (cs : List Char) : Bool :=
  match cs.dropWhile isCaseIgnorable with
  | c :: _ => isCased c
  | [] => false

/-- The characters in lower case, where `cased` tells whether the last character before them that
counts is a cased letter. -/
def lowerCharsAfter (cased : Bool) : List Char → List Char
  | [] => []
  | c :: rest =>
    let image :=
      if c = 'Σ' then [if cased && !leadsWithCased rest then 'ς' else 'σ'] else lowerOf c
    image ++ lowerCharsAfter (if isCaseIgnorable c then cased else isCased c) rest

/-- The characters in lower case. -/
def lowerChars (cs : List Char) : List Char := lowerCharsAfter false cs

/-- The text in upper case, which may be longer. -/
def upper (s : String) : String := String.ofList (upperChars s.toList)

/-- The text in lower case, which may be longer. -/
def lower (s : String) : String := String.ofList (lowerChars s.toList)

@[simp] theorem toList_upper (s : String) : (upper s).toList = upperChars s.toList := by
  simp [upper]

@[simp] theorem toList_lower (s : String) : (lower s).toList = lowerChars s.toList := by
  simp [lower]

@[simp] theorem upperChars_nil : upperChars [] = [] := rfl

@[simp] theorem upperChars_cons (c : Char) (cs : List Char) :
    upperChars (c :: cs) = upperOf c ++ upperChars cs := by
  simp [upperChars]

@[simp] theorem upperChars_append (cs ds : List Char) :
    upperChars (cs ++ ds) = upperChars cs ++ upperChars ds := by
  simp [upperChars]

end WordStrip.Text
