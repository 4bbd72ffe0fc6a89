import Mathlib.Algebra.Ring.Nat
import Mathlib.Data.List.Infix

set_option autoImplicit false

abbrev Text := List Char

namespace Text

def chop (line : Text) : Text := if line.getLast? = some '\r' then line.dropLast else line

def linesFrom (current : Text) : Text → List Text
  -- Nothing follows a last newline, and a piece that none ends is kept whole.
  | [] => if current = [] then [] else [current.reverse]
  | letter :: rest =>
      if letter = '\n' then chop current.reverse :: linesFrom [] rest else linesFrom (letter :: current) rest

def lines (text : Text) : List Text := linesFrom [] text

def find (pattern : Text) : Text → Option Text
  | [] => if pattern = [] then some [] else none
  | letter :: rest => if pattern <+: letter :: rest then some (letter :: rest) else find pattern rest

def contains (pattern text : Text) : Bool := (find pattern text).isSome

def byteLength (text : Text) : Nat := (text.map Char.utf8Size).sum

def sliceTo : Nat → Text → Option Text
  | 0, _ => some []
  | _ + 1, [] => none
  | bytes + 1, letter :: rest =>
      if letter.utf8Size ≤ bytes + 1 then (sliceTo (bytes + 1 - letter.utf8Size) rest).map (letter :: ·) else none

def isWhite (letter : Char) : Bool :=
  [0x9, 0xa, 0xb, 0xc, 0xd, 0x20, 0x85, 0xa0, 0x1680, 0x2000, 0x2001, 0x2002, 0x2003, 0x2004, 0x2005, 0x2006, 0x2007,
    0x2008, 0x2009, 0x200a, 0x2028, 0x2029, 0x202f, 0x205f, 0x3000].contains letter.toNat

def trim (text : Text) : Text := ((text.dropWhile isWhite).reverse.dropWhile isWhite).reverse

def Ascii (text : Text) : Prop := ∀ letter ∈ text, letter.utf8Size = 1

theorem lines_from_split (current front rest : Text) :
    linesFrom current (front ++ '\n' :: rest) = linesFrom current (front ++ ['\n']) ++ lines rest := by
  induction front generalizing current with
  | nil => simp [linesFrom, lines]
  | cons letter front ih =>
      by_cases newline : letter = '\n'
      · simp [linesFrom, newline, ih []]
      · simp [linesFrom, newline, ih (letter :: current)]

theorem lines_from_piece (piece : Text) (single : '\n' ∉ piece) (current : Text) :
    linesFrom current (piece ++ ['\n']) = [chop (current.reverse ++ piece)] := by
  induction piece generalizing current with
  | nil => simp [linesFrom]
  | cons letter piece ih =>
      have different : letter ≠ '\n' := fun same => single (same ▸ List.mem_cons_self)
      have later : '\n' ∉ piece := fun member => single (List.mem_cons_of_mem _ member)
      simp [linesFrom, different, ih later]

theorem lines_split (front rest : Text) : lines (front ++ '\n' :: rest) = lines (front ++ ['\n']) ++ lines rest :=
  lines_from_split [] front rest

theorem chop_line (line : Text) (plain : '\r' ∉ line) : chop line = line := by
  have kept : line.getLast? ≠ some '\r' := fun last => plain (List.mem_of_getLast? last)
  simp [chop, kept]

theorem lines_of_rows (rows : List Text) (single : ∀ row ∈ rows, '\n' ∉ row) (plain : ∀ row ∈ rows, '\r' ∉ row) (rest : Text) :
    lines (rows.flatMap (· ++ ['\n']) ++ rest) = rows ++ lines rest := by
  induction rows with
  | nil => rfl
  | cons row rows ih =>
      have later := ih (fun other member => single other (List.mem_cons_of_mem _ member))
        (fun other member => plain other (List.mem_cons_of_mem _ member))
      have first := lines_from_piece row (single row List.mem_cons_self) []
      rw [List.reverse_nil, List.nil_append, chop_line row (plain row List.mem_cons_self)] at first
      simp only [List.flatMap_cons, List.append_assoc, List.cons_append, List.nil_append]
      rw [lines_split, later, lines, first]
      rfl

theorem find_here (pattern rest : Text) : find pattern (pattern ++ rest) = some (pattern ++ rest) := by
  cases text : pattern ++ rest with
  | nil => simp_all [find]
  | cons letter tail =>
      have stands : pattern <+: letter :: tail := text ▸ List.prefix_append pattern rest
      simp [find, stands]

theorem find_past (first : Char) (pattern front : Text) (absent : first ∉ front) (rest : Text) :
    find (first :: pattern) (front ++ rest) = find (first :: pattern) rest := by
  induction front with
  | nil => rfl
  | cons letter front ih =>
      have different : first ≠ letter := fun same => absent (same ▸ List.mem_cons_self)
      have later : first ∉ front := fun member => absent (List.mem_cons_of_mem _ member)
      simp [find, different, ih later]

theorem find_suffix (pattern text found : Text) (stands : find pattern text = some found) :
    pattern <+: found ∧ found <:+ text := by
  induction text with
  | nil =>
      by_cases empty : pattern = []
      · simp_all [find]
      · simp [find, empty] at stands
  | cons letter rest ih =>
      by_cases here : pattern <+: letter :: rest
      · simp only [find, here, if_true, Option.some.injEq] at stands
        exact stands ▸ ⟨here, List.suffix_refl _⟩
      · simp only [find, here, if_false] at stands
        obtain ⟨starts, ends⟩ := ih stands
        exact ⟨starts, ends.trans (List.suffix_cons letter rest)⟩

theorem find_infix (pattern front rest : Text) : (find pattern (front ++ (pattern ++ rest))).isSome := by
  induction front with
  | nil => simp [find_here]
  | cons letter front ih =>
      by_cases here : pattern <+: letter :: (front ++ (pattern ++ rest))
      · simp [find, here]
      · simpa [find, here] using ih

theorem contains_iff (pattern text : Text) : contains pattern text = true ↔ pattern <:+: text := by
  constructor
  · intro holds
    obtain ⟨found, stands⟩ := Option.isSome_iff_exists.mp holds
    obtain ⟨starts, ends⟩ := find_suffix pattern text found stands
    exact starts.isInfix.trans ends.isInfix
  · rintro ⟨front, rest, rfl⟩
    rw [contains, List.append_assoc]
    exact find_infix pattern front rest

theorem contains_absent (letter : Char) (pattern text : Text) (needed : letter ∈ pattern) (absent : letter ∉ text) :
    contains pattern text = false := by
  rw [Bool.eq_false_iff, Ne, contains_iff]
  exact fun inside => absent (inside.subset needed)

theorem byte_length_ascii (text : Text) (ascii : Ascii text) : byteLength text = text.length := by
  induction text with
  | nil => rfl
  | cons letter rest ih =>
      have width := ascii letter List.mem_cons_self
      have later := ih fun other member => ascii other (List.mem_cons_of_mem _ member)
      simp only [byteLength, List.map_cons, List.sum_cons, width, List.length_cons] at later ⊢
      omega

theorem slice_ascii (front rest : Text) (ascii : Ascii front) : sliceTo front.length (front ++ rest) = some front := by
  induction front with
  | nil => simp [sliceTo]
  | cons letter front ih =>
      have width := ascii letter List.mem_cons_self
      have later := ih fun other member => ascii other (List.mem_cons_of_mem _ member)
      simp [sliceTo, width, later]

def hexLetters (capital : Bool) : Text :=
  if capital then ['0', '1', '2', '3', '4', '5', '6', '7', '8', '9', 'A', 'B', 'C', 'D', 'E', 'F']
  else ['0', '1', '2', '3', '4', '5', '6', '7', '8', '9', 'a', 'b', 'c', 'd', 'e', 'f']

def hexDigit (capital : Bool) (value : Nat) : Char := (hexLetters capital).getD value '0'

def hexText (capital : Nat → Bool) : Nat → Nat → Text
  | 0, _ => []
  | width + 1, number => hexText capital width (number / 16) ++ [hexDigit (capital width) (number % 16)]

def hexValue (letter : Char) : Option Nat :=
  if '0' ≤ letter ∧ letter ≤ '9' then some (letter.toNat - '0'.toNat)
  else if 'a' ≤ letter ∧ letter ≤ 'f' then some (letter.toNat - 'a'.toNat + 10)
  else if 'A' ≤ letter ∧ letter ≤ 'F' then some (letter.toNat - 'A'.toNat + 10)
  else none

def readHex (total : Nat) : Text → Option Nat
  | [] => some total
  | letter :: rest => (hexValue letter).bind fun digit => readHex (total * 16 + digit) rest

theorem hex_digit_listed (capital : Bool) (value : Nat) : hexDigit capital value ∈ hexLetters capital := by
  rw [hexDigit, List.getD_eq_getElem?_getD]
  cases found : (hexLetters capital)[value]? with
  | none => cases capital <;> simp [hexLetters]
  | some letter => exact List.mem_of_getElem? found

theorem hex_value_digit (capital : Bool) (value : Nat) (small : value < 16) : hexValue (hexDigit capital value) = some value := by
  have every : (List.range 16).all (fun other => hexValue (hexDigit capital other) = some other) = true := by
    cases capital <;> rfl
  exact of_decide_eq_true (List.all_eq_true.mp every value (List.mem_range.mpr small))

theorem hex_text_length (capital : Nat → Bool) (width number : Nat) : (hexText capital width number).length = width := by
  induction width generalizing number with
  | zero => rfl
  | succ width ih => simp [hexText, ih]

theorem hex_text_letters (capital : Nat → Bool) (width number : Nat) (letter : Char) (listed : letter ∈ hexText capital width number) :
    letter ∈ hexLetters true ∨ letter ∈ hexLetters false := by
  induction width generalizing number with
  | zero => simp [hexText] at listed
  | succ width ih =>
      rcases List.mem_append.mp listed with earlier | last
      · exact ih (number / 16) earlier
      · have digit := hex_digit_listed (capital width) (number % 16)
        rw [← List.mem_singleton.mp last] at digit
        cases chosen : capital width with
        | true => exact .inl (chosen ▸ digit)
        | false => exact .inr (chosen ▸ digit)

theorem hex_text_lacks (capital : Nat → Bool) (width number : Nat) (letter : Char) (upper : letter ∉ hexLetters true)
    (lower : letter ∉ hexLetters false) : letter ∉ hexText capital width number :=
  fun listed => (hex_text_letters capital width number letter listed).elim upper lower

theorem hex_text_ascii (capital : Nat → Bool) (width number : Nat) : Ascii (hexText capital width number) := by
  intro letter listed
  have single (capital : Bool) (inside : letter ∈ hexLetters capital) : letter.utf8Size = 1 := by
    have every : (hexLetters capital).all (fun other => other.utf8Size = 1) = true := by cases capital <;> rfl
    exact of_decide_eq_true (List.all_eq_true.mp every letter inside)
  exact (hex_text_letters capital width number letter listed).elim (single true) (single false)

theorem read_hex_append (front : Text) (last : Char) (total : Nat) :
    readHex total (front ++ [last]) =
      (readHex total front).bind fun read => (hexValue last).map fun digit => read * 16 + digit := by
  induction front generalizing total with
  | nil => cases found : hexValue last <;> simp [readHex, found]
  | cons letter front ih =>
      simp only [List.cons_append, readHex]
      cases hexValue letter with
      | none => rfl
      | some digit => exact ih _

theorem read_hex_text (capital : Nat → Bool) (width number : Nat) (fits : number < 16 ^ width) :
    readHex 0 (hexText capital width number) = some number := by
  induction width generalizing number with
  | zero =>
      have none : number = 0 := by omega
      simp [hexText, readHex, none]
  | succ width ih =>
      have high : number / 16 < 16 ^ width := Nat.div_lt_of_lt_mul (by rwa [Nat.pow_succ, Nat.mul_comm] at fits)
      rw [hexText, read_hex_append, ih _ high, hex_value_digit _ _ (Nat.mod_lt _ (by omega))]
      simp only [Option.bind_some, Option.map_some, Option.some.injEq]
      omega

end Text
