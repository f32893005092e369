/-!
# ProseChart.Text — texts as lists of characters

Every description, label, answer and log line of the library is a `Text`, a list
of Unicode scalar values. Lengths and counts are therefore in code points, and
every function on texts is a recursion on the list.

* `Text.pieces` cuts a text at the characters of a class; the pieces and the cut
  characters alternate, so nothing else is lost.
* `Text.trim` drops a class of characters from both ends.
* `Text.mentions` is the substring test.
* `Text.ofInt` writes an integer in decimal.
* `Text.unlines` writes lines; `Text.unifyLineEnds` turns every line end into a
  line feed.
-/

namespace ProseChart

/-- A text: a list of Unicode scalar values. -/
abbrev Text := List Char

/-- String literals stand for their characters wherever a text is expected. -/
instance : Coe String Text := ⟨String.toList⟩

namespace Text

/-! ## Cutting and trimming -/

/-- The maximal runs without a character of the class `p`, in order. Two cuts in
a row leave an empty piece between them, and the empty text is one empty piece. -/
def pieces (p : Char → Bool) : Text → List Text
  | [] => [[]]
  | c :: rest =>
    if p c then [] :: pieces p rest
    else (pieces p rest).modifyHead (c :: ·)

/-- There is always a first piece. -/
theorem pieces_ne_nil (p : Char → Bool) (t : Text) : pieces p t ≠ [] := by
  induction t with
  | nil => simp [pieces]
  | cons c rest ih =>
    rw [pieces]
    split
    · simp
    · simpa [List.modifyHead_eq_nil_iff] using ih

/-- A cut separates the pieces before it from the pieces after it. -/
theorem pieces_append_cons {p : Char → Bool} {c : Char} (cut : p c = true) (a b : Text) :
    pieces p (a ++ c :: b) = pieces p a ++ pieces p b := by
  induction a with
  | nil => simp [pieces, cut]
  | cons d rest ih =>
    rw [List.cons_append, pieces, pieces]
    split
    · rw [ih, List.cons_append]
    · obtain ⟨piece, others, eq⟩ := List.exists_cons_of_ne_nil (pieces_ne_nil p rest)
      rw [ih, eq]
      rfl

/-- Drops the characters of the class `p` from the end. -/
def trimEnd (p : Char → Bool) (t : Text) : Text :=
  (t.reverse.dropWhile p).reverse

/-- Drops the characters of the class `p` from both ends. -/
def trim (p : Char → Bool) (t : Text) : Text :=
  trimEnd p (t.dropWhile p)

/-! ## Substrings -/

/-- Whether `word` stands somewhere in the text, as one contiguous run. -/
def mentions (word : Text) : Text → Bool
  | [] => word.isEmpty
  | c :: rest => word.isPrefixOf (c :: rest) || mentions word rest

/-- The substring test decides the library's infix relation. -/
theorem mentions_iff_infix {word t : Text} : mentions word t = true ↔ word <:+: t := by
  induction t with
  | nil => simp [mentions]
  | cons c rest ih =>
    rw [mentions, Bool.or_eq_true, List.isPrefixOf_iff_prefix, ih, List.infix_cons_iff]

/-! ## Numbers -/

/-- The decimal digits of a natural number, without leading zeros. -/
def ofNat (n : Nat) : Text := Nat.toDigits 10 n

/-- An integer in decimal, with a minus sign when it is negative. -/
def ofInt : Int → Text
  | .ofNat n => ofNat n
  | .negSucc n => '-' :: ofNat (n + 1)

/-! ## Lines -/

/-- Carriage return with line feed, and carriage return alone, become a line
feed; this is how text is read from standard input. -/
def unifyLineEnds : Text → Text
  | [] => []
  | c :: rest =>
    if c = '\r' then
      match rest with
      | [] => ['\n']
      | d :: rest' =>
        if d = '\n' then '\n' :: unifyLineEnds rest'
        else '\n' :: unifyLineEnds (d :: rest')
    else c :: unifyLineEnds rest

/-- A text followed by a line feed. -/
def line (t : Text) : Text := t ++ ['\n']

/-- Lines one below the other, each followed by a line feed. -/
def unlines (lines : List Text) : Text := lines.flatMap line

end Text

end ProseChart
