import Mathlib.Data.List.TakeWhile
import WorkerSettings.Json.Number
import WorkerSettings.Json.Quoted

/-!
# The grammar of JSON texts

What the readers are measured against: which texts spell which strings, literals, values
and members, said without a reader. `Derives` is the grammar of values that may be passed
over. It asks of a string only that its parts are spelled, so code units need not pair up
there, and it puts no bound on a number or on the depth of brackets. `SpellsString` and
`SpellsMembers` also say which text a string denotes, and there every surrogate has its
partner.
-/

namespace WorkerSettings.Json

def blanks : List Char :=
  [' ', '\t', '\n', '\r']

def IsBlanks (cs : List Char) : Prop :=
  ∀ c ∈ cs, c ∈ blanks

instance (cs : List Char) : Decidable (IsBlanks cs) :=
  List.decidableBAll (· ∈ blanks) cs

/-- The letters that may follow a backslash, each with the character that it stands for. -/
def escapes : List (Char × Char) :=
  [('"', '"'), ('\\', '\\'), ('/', '/'), ('b', '\x08'), ('f', '\x0c'), ('n', '\n'), ('r', '\r'),
    ('t', '\t')]

/-- The character is the hexadecimal digit of the value, in either case. -/
def IsHex (c : Char) (value : Nat) : Prop :=
  value < 16 ∧ (c = Nat.digitChar value ∨ c = (Nat.digitChar value).toUpper)

/-- Four hexadecimal digits, the most significant one first, and the code unit that they
spell. -/
inductive SpellsUnit : List Char → Nat → Prop
  | mk {a b c d : Char} {i j k l : Nat} (first : IsHex a i) (second : IsHex b j)
      (third : IsHex c k) (fourth : IsHex d l) :
      SpellsUnit [a, b, c, d] (i * 0x1000 + j * 0x100 + k * 0x10 + l)

inductive SpellsPieces : List Char → List Piece → Prop
  | nil : SpellsPieces [] []
  | char {c : Char} {spelling : List Char} {pieces : List Piece} (quote : c ≠ '"')
      (backslash : c ≠ '\\') (visible : 0x20 ≤ c.toNat) (rest : SpellsPieces spelling pieces) :
      SpellsPieces (c :: spelling) (.char c :: pieces)
  | escape {letter c : Char} {spelling : List Char} {pieces : List Piece}
      (meaning : (letter, c) ∈ escapes) (rest : SpellsPieces spelling pieces) :
      SpellsPieces ('\\' :: letter :: spelling) (.char c :: pieces)
  | unit {digits : List Char} {value : Nat} {spelling : List Char} {pieces : List Piece}
      (spelled : SpellsUnit digits value) (rest : SpellsPieces spelling pieces) :
      SpellsPieces ('\\' :: 'u' :: (digits ++ spelling)) (.unit value :: pieces)

/-- The characters that parts denote: code units are characters of their own, but for
surrogates, of which a high one and a low one make a character together. -/
inductive Denotes : List Piece → List Char → Prop
  | nil : Denotes [] []
  | char (c : Char) {pieces : List Piece} {cs : List Char} (rest : Denotes pieces cs) :
      Denotes (.char c :: pieces) (c :: cs)
  | unit {value : Nat} {pieces : List Piece} {cs : List Char}
      (noSurrogate : value < 0xD800 ∨ 0xDFFF < value) (rest : Denotes pieces cs) :
      Denotes (.unit value :: pieces) (Char.ofNat value :: cs)
  | pair {high low : Nat} {pieces : List Piece} {cs : List Char}
      (isHigh : 0xD800 ≤ high ∧ high < 0xDC00) (isLow : 0xDC00 ≤ low ∧ low < 0xE000)
      (rest : Denotes pieces cs) :
      Denotes (.unit high :: .unit low :: pieces)
        (Char.ofNat (0x10000 + (high - 0xD800) * 0x400 + (low - 0xDC00)) :: cs)

/-- The text is a string between its quotes, and it denotes `s`. -/
def SpellsString (text : List Char) (s : String) : Prop :=
  ∃ spelling pieces, text = '"' :: spelling ++ ['"'] ∧ SpellsPieces spelling pieces ∧
    Denotes pieces s.toList

def IsDigits (cs : List Char) : Prop :=
  cs ≠ [] ∧ ∀ c ∈ cs, c.isDigit = true

instance (cs : List Char) : Decidable (IsDigits cs) :=
  @instDecidableAnd _ _ inferInstance (List.decidableBAll (fun c => c.isDigit = true) cs)

/-- Digits of which a zero is the first only if it is the only one. -/
def IsWhole (cs : List Char) : Prop :=
  IsDigits cs ∧ (cs.head? = some '0' → cs = ['0'])

inductive SpellsFraction : List Char → Option (List Char) → Prop
  | absent : SpellsFraction [] none
  | present {digits : List Char} (digit : IsDigits digits) :
      SpellsFraction ('.' :: digits) (some digits)

/-- A letter, a sign that may be left out and digits, or nothing. -/
inductive SpellsExponent : List Char → Option Int → Prop
  | absent : SpellsExponent [] none
  | unsigned {letter : Char} {digits : List Char} (mark : letter = 'e' ∨ letter = 'E')
      (digit : IsDigits digits) :
      SpellsExponent (letter :: digits) (some (Numeral.value digits))
  | plus {letter : Char} {digits : List Char} (mark : letter = 'e' ∨ letter = 'E')
      (digit : IsDigits digits) :
      SpellsExponent (letter :: '+' :: digits) (some (Numeral.value digits))
  | minus {letter : Char} {digits : List Char} (mark : letter = 'e' ∨ letter = 'E')
      (digit : IsDigits digits) :
      SpellsExponent (letter :: '-' :: digits) (some (-Numeral.value digits))

def sign (negative : Bool) : List Char :=
  if negative then ['-'] else []

inductive SpellsLiteral : List Char → Literal → Prop
  | mk (negative : Bool) {whole fractionText exponentText : List Char}
      {fraction : Option (List Char)} {exponent : Option Int} (isWhole : IsWhole whole)
      (hasFraction : SpellsFraction fractionText fraction)
      (hasExponent : SpellsExponent exponentText exponent) :
      SpellsLiteral (sign negative ++ (whole ++ (fractionText ++ exponentText)))
        { negative, whole, fraction, exponent }

/-- The phrases of the grammar: a value without blanks around it, and what stands between
the brackets of a list or an object that is not empty. -/
inductive Phrase
  | value
  | elements
  | members

inductive Derives : Phrase → List Char → Prop
  | word {word : List Char}
      (member : word ∈ ["null".toList, "true".toList, "false".toList]) :
      Derives .value word
  | string {spelling : List Char} {pieces : List Piece} (spelled : SpellsPieces spelling pieces) :
      Derives .value ('"' :: (spelling ++ ['"']))
  | number {text : List Char} {literal : Literal} (spelled : SpellsLiteral text literal) :
      Derives .value text
  | emptyList {gap : List Char} (blank : IsBlanks gap) : Derives .value ('[' :: (gap ++ [']']))
  | list {body : List Char} (elements : Derives .elements body) :
      Derives .value ('[' :: (body ++ [']']))
  | emptyObject {gap : List Char} (blank : IsBlanks gap) :
      Derives .value ('\x7b' :: (gap ++ ['\x7d']))
  | object {body : List Char} (members : Derives .members body) :
      Derives .value ('\x7b' :: (body ++ ['\x7d']))
  | lastElement {before value after : List Char} (blankBefore : IsBlanks before)
      (derives : Derives .value value) (blankAfter : IsBlanks after) :
      Derives .elements (before ++ (value ++ after))
  | element {before value after rest : List Char} (blankBefore : IsBlanks before)
      (derives : Derives .value value) (blankAfter : IsBlanks after)
      (elements : Derives .elements rest) :
      Derives .elements (before ++ (value ++ (after ++ ',' :: rest)))
  | lastMember {before key gap lead value after : List Char} {pieces : List Piece}
      (blankBefore : IsBlanks before) (spelled : SpellsPieces key pieces) (blankGap : IsBlanks gap)
      (blankLead : IsBlanks lead) (derives : Derives .value value) (blankAfter : IsBlanks after) :
      Derives .members
        (before ++ '"' :: (key ++ '"' :: (gap ++ ':' :: (lead ++ (value ++ after)))))
  | member {before key gap lead value after rest : List Char} {pieces : List Piece}
      (blankBefore : IsBlanks before) (spelled : SpellsPieces key pieces) (blankGap : IsBlanks gap)
      (blankLead : IsBlanks lead) (derives : Derives .value value) (blankAfter : IsBlanks after)
      (members : Derives .members rest) :
      Derives .members
        (before ++ '"' :: (key ++ '"' ::
          (gap ++ ':' :: (lead ++ (value ++ (after ++ ',' :: rest))))))

/-- The key of a member, as it reads, and the text of its value. -/
abbrev Member : Type :=
  String × List Char

/-- A member: blanks may stand around its key and around its value. -/
inductive SpellsMember : List Char → Member → Prop
  | mk {before keyText gap lead value after : List Char} {key : String}
      (blankBefore : IsBlanks before) (spelled : SpellsString keyText key)
      (blankGap : IsBlanks gap) (blankLead : IsBlanks lead) (derives : Derives .value value)
      (blankAfter : IsBlanks after) :
      SpellsMember (before ++ (keyText ++ (gap ++ ':' :: (lead ++ (value ++ after))))) (key, value)

inductive SpellsMembers : List Char → List Member → Prop
  | last {text : List Char} {member : Member} (spelled : SpellsMember text member) :
      SpellsMembers text [member]
  | cons {text rest : List Char} {member : Member} {members : List Member}
      (spelled : SpellsMember text member) (more : SpellsMembers rest members) :
      SpellsMembers (text ++ ',' :: rest) (member :: members)

inductive SpellsBody : List Char → List Member → Prop
  | empty {gap : List Char} (blank : IsBlanks gap) : SpellsBody gap []
  | members {text : List Char} {members : List Member} (spelled : SpellsMembers text members) :
      SpellsBody text members

/-- A text that holds one object and blanks, and the members of the object in order. -/
def SpellsObject (text : List Char) (members : List Member) : Prop :=
  ∃ before body after, IsBlanks before ∧ SpellsBody body members ∧ IsBlanks after ∧
    text = before ++ '\x7b' :: (body ++ '\x7d' :: after)

theorem isBlank_iff {c : Char} : isBlank c = true ↔ c ∈ blanks := by
  simp [isBlank, blanks, or_assoc]

theorem IsBlanks.nil : IsBlanks [] := by
  intro c member
  cases member

theorem IsBlanks.append {cs ds : List Char} (left : IsBlanks cs) (right : IsBlanks ds) :
    IsBlanks (cs ++ ds) := by
  intro c member
  rcases List.mem_append.mp member with member | member
  · exact left c member
  · exact right c member

/-- Blanks before a text are passed over with its own. -/
theorem dropBlanks_append {gap : List Char} (blank : IsBlanks gap) (cs : List Char) :
    dropBlanks (gap ++ cs) = dropBlanks cs :=
  List.dropWhile_append_of_pos fun c member => isBlank_iff.mpr (blank c member)

theorem dropBlanks_cons {c : Char} (notBlank : isBlank c = false) (cs : List Char) :
    dropBlanks (c :: cs) = c :: cs := by
  rw [dropBlanks, List.dropWhile_cons_of_neg (by simp [notBlank])]

/-- What is passed over is blank, and a character that is not comes next, if any. -/
theorem exists_blanks (cs : List Char) :
    ∃ gap, IsBlanks gap ∧ cs = gap ++ dropBlanks cs := by
  refine ⟨cs.takeWhile isBlank, fun c member => ?_, List.takeWhile_append_dropWhile.symm⟩
  exact isBlank_iff.mp (List.mem_takeWhile_imp member)

theorem dropBlanks_eq_nil_iff {cs : List Char} : dropBlanks cs = [] ↔ IsBlanks cs := by
  rw [dropBlanks, List.dropWhile_eq_nil_iff]
  exact forall₂_congr fun c _ => isBlank_iff

/-- What may follow a number: the end of the text, a blank, a comma or a closing bracket. -/
def EndsToken (rest : List Char) : Prop :=
  ∀ c, rest.head? = some c → c ∈ blanks ∨ c = ',' ∨ c = ']' ∨ c = '\x7d'

theorem EndsToken.cons {c : Char} {rest : List Char} (closer : c = ',' ∨ c = ']' ∨ c = '\x7d') :
    EndsToken (c :: rest) := by
  intro d head
  cases head
  exact .inr closer

/-- Blanks may stand before what ends a token. -/
theorem EndsToken.append {gap rest : List Char} (blank : IsBlanks gap) (ends : EndsToken rest) :
    EndsToken (gap ++ rest) := by
  intro c head
  cases gap with
  | nil => exact ends c head
  | cons d gap =>
    cases head
    exact .inl (blank _ List.mem_cons_self)

end WorkerSettings.Json
