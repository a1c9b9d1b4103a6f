import Mathlib

/-!
# Command lines

A program on Windows gets its arguments as one text, and splits it by these rules.

* Blanks and tabs separate arguments, outside quotes.
* A quote starts or ends a stretch in which they do not; it is not part of the argument.
* A run of backslashes before a quote stands for half as many.  If it is odd the quote is one of
  the argument's characters, else it starts or ends a stretch.
* Other backslashes stand for themselves.

Some versions also read two quotes inside a stretch as one of the argument's characters;
`doubledQuotes` says whether this one does.  `Reads` says that a text is read as one argument
wherever it stands between blanks, and `split_join` that a line of such texts is split into their
arguments.
-/

set_option autoImplicit false

/-- UTF-16 text. -/
abbrev WideString := List UInt16

namespace CommandLine

/-- The characters that the splitting of a command line looks at. -/
def kSpace : UInt16 := 0x20
def kTab : UInt16 := 0x09
def kQuote : UInt16 := 0x22
def kBackslash : UInt16 := 0x5c

/-! ## Splitting -/

/-- The argument that is being read, with the backslashes before the place as they are. -/
def held : Option WideString → Nat → Option WideString
  | none, 0 => none
  | current, backslashes => some (current.getD [] ++ List.replicate backslashes kBackslash)

/-- The arguments of a text behind a place: what the argument there has so far, if there is one,
whether the place is inside quotes, and the number of backslashes right before it. -/
def splitFrom (doubledQuotes : Bool) : Option WideString → Bool → Nat → WideString → List WideString
  | current, _, backslashes, [] => (held current backslashes).toList
  | current, quoted, backslashes, ch :: rest =>
    if ch = kBackslash then splitFrom doubledQuotes current quoted (backslashes + 1) rest
    else if ch = kQuote then
      let argument := current.getD [] ++ List.replicate (backslashes / 2) kBackslash
      if backslashes % 2 = 1 then
        splitFrom doubledQuotes (some (argument ++ [kQuote])) quoted 0 rest
      else
        match rest with
        | [] => [argument]
        | next :: rest =>
          if doubledQuotes ∧ quoted ∧ next = kQuote then
            splitFrom doubledQuotes (some (argument ++ [kQuote])) quoted 0 rest
          else splitFrom doubledQuotes (some argument) (!quoted) 0 (next :: rest)
    else if quoted = false ∧ (ch = kSpace ∨ ch = kTab) then
      (held current backslashes).toList ++ splitFrom doubledQuotes none false 0 rest
    else
      splitFrom doubledQuotes (some ((held current backslashes).getD [] ++ [ch])) quoted 0 rest

/-- The words of a text. -/
def split (doubledQuotes : Bool) (line : WideString) : List WideString :=
  splitFrom doubledQuotes none false 0 line

section

variable {doubledQuotes : Bool}

theorem splitFrom_backslashes (current : Option WideString) (quoted : Bool) (rest : WideString)
    (backslashes count : Nat) :
    splitFrom doubledQuotes current quoted backslashes
        (List.replicate count kBackslash ++ rest) =
      splitFrom doubledQuotes current quoted (backslashes + count) rest := by
  induction count generalizing backslashes with
  | zero => rfl
  | succ count ih =>
    rw [List.replicate_succ, List.cons_append, splitFrom, if_pos rfl, ih, Nat.add_right_comm,
      Nat.add_assoc]

theorem held_some (argument : WideString) (backslashes : Nat) :
    held (some argument) backslashes =
      some (argument ++ List.replicate backslashes kBackslash) := by
  rw [held]
  · rfl
  · exact fun h ↦ nomatch h

/-- A character that is neither a backslash nor a quote, where it does not separate. -/
theorem splitFrom_other {ch : UInt16} (hbackslash : ch ≠ kBackslash) (hquote : ch ≠ kQuote)
    {quoted : Bool} (hseparator : quoted = true ∨ ch ≠ kSpace ∧ ch ≠ kTab)
    (current : Option WideString) (backslashes : Nat) (rest : WideString) :
    splitFrom doubledQuotes current quoted backslashes (ch :: rest) =
      splitFrom doubledQuotes (some ((held current backslashes).getD [] ++ [ch])) quoted 0
        rest := by
  rw [splitFrom, if_neg hbackslash, if_neg hquote, if_neg]
  rintro ⟨hquoted, hspace⟩
  rcases hseparator with h | h
  · rw [hquoted] at h
    exact nomatch h
  · exact hspace.elim h.1 h.2

/-- An odd run of backslashes makes the quote a character. -/
theorem splitFrom_escaped (argument : WideString) (quoted : Bool) (half : Nat)
    (rest : WideString) :
    splitFrom doubledQuotes (some argument) quoted (2 * half + 1) (kQuote :: rest) =
      splitFrom doubledQuotes
        (some (argument ++ List.replicate half kBackslash ++ [kQuote])) quoted 0 rest := by
  have hodd : (2 * half + 1) % 2 = 1 := by omega
  have hhalf : (2 * half + 1) / 2 = half := by omega
  rw [splitFrom, if_neg (by decide), if_pos rfl, if_pos hodd, hhalf]
  rfl

/-- Between arguments a quote starts one. -/
theorem splitFrom_opening (rest : WideString) :
    splitFrom doubledQuotes none false 0 (kQuote :: rest) =
      splitFrom doubledQuotes (some []) true 0 rest := by
  rw [splitFrom, if_neg (by decide), if_pos rfl, if_neg (by decide)]
  cases rest with
  | nil => rfl
  | cons next rest =>
    have hclosed : ¬ (doubledQuotes ∧ false ∧ next = kQuote) := fun h ↦ nomatch h.2.1
    exact if_neg hclosed

/-- Behind an even run the quote ends the stretch, unless another one follows. -/
theorem splitFrom_closing (argument : WideString) (half : Nat) {rest : WideString}
    (hrest : rest.head? ≠ some kQuote) :
    splitFrom doubledQuotes (some argument) true (2 * half) (kQuote :: rest) =
      splitFrom doubledQuotes (some (argument ++ List.replicate half kBackslash)) false 0 rest := by
  have heven : ¬ 2 * half % 2 = 1 := by omega
  have hhalf : 2 * half / 2 = half := by omega
  rw [splitFrom, if_neg (by decide), if_pos rfl, if_neg heven, hhalf]
  cases rest with
  | nil => rw [splitFrom, held_some, List.replicate_zero, List.append_nil]; rfl
  | cons next rest =>
    have hnext : ¬ (doubledQuotes ∧ true ∧ next = kQuote) := fun h ↦ hrest (congrArg some h.2.2)
    exact if_neg hnext

theorem splitFrom_space (argument rest : WideString) :
    splitFrom doubledQuotes (some argument) false 0 (kSpace :: rest) =
      argument :: split doubledQuotes rest := by
  rw [splitFrom, if_neg (by decide), if_neg (by decide), if_pos ⟨rfl, Or.inl rfl⟩, held_some]
  simp [split]

/-! ## Texts of one argument -/

variable (doubledQuotes) in
/-- Up to the next blank the text is one argument. -/
def Reads (text argument : WideString) : Prop :=
  ∀ rest, (∀ ch ∈ rest.head?, ch = kSpace) →
    splitFrom doubledQuotes none false 0 (text ++ rest) =
      splitFrom doubledQuotes (some argument) false 0 rest

/-- **A line of such texts is split into their arguments.** -/
theorem split_join {texts arguments : List WideString}
    (h : List.Forall₂ (Reads doubledQuotes) texts arguments) :
    split doubledQuotes (List.intercalate [kSpace] texts) = arguments := by
  induction h with
  | nil => rfl
  | @cons text argument texts arguments htext htexts ih =>
    cases htexts with
    | nil =>
      have hread := htext [] (by simp)
      rw [splitFrom, held_some] at hread
      simpa [split] using hread
    | cons hnext hmore =>
      rw [List.intercalate_cons_cons, split, List.append_assoc, htext _ (by simp),
        List.singleton_append, splitFrom_space, ih]

theorem split_of_reads {text argument : WideString} (h : Reads doubledQuotes text argument) :
    split doubledQuotes text = [argument] := by
  have hsplit := @split_join doubledQuotes [text] [argument] (.cons h .nil)
  rwa [List.intercalate_singleton] at hsplit

/-- A line that is written one text after the other. -/
theorem foldl_join (texts : List WideString) (line : WideString) :
    texts.foldl (fun line text ↦ line ++ [kSpace] ++ text) line =
      List.intercalate [kSpace] (line :: texts) := by
  induction texts generalizing line with
  | nil => rw [List.foldl_nil, List.intercalate_singleton]
  | cons text texts ih =>
    rw [List.foldl_cons, ih, List.intercalate_cons_cons]
    cases texts with
    | nil => simp
    | cons next texts => simp [List.intercalate_cons_cons]

/-- The character is none of those with a meaning. -/
def isPlain (ch : UInt16) : Bool :=
  ch != kBackslash && ch != kQuote && ch != kSpace && ch != kTab

theorem splitFrom_plain {ch : UInt16} (hplain : isPlain ch = true) (current : Option WideString)
    (rest : WideString) :
    splitFrom doubledQuotes current false 0 (ch :: rest) =
      splitFrom doubledQuotes (some ((held current 0).getD [] ++ [ch])) false 0 rest := by
  rw [isPlain] at hplain
  simp only [Bool.and_eq_true, bne_iff_ne] at hplain
  obtain ⟨⟨⟨hbackslash, hquote⟩, hspace⟩, htab⟩ := hplain
  exact splitFrom_other hbackslash hquote (Or.inr ⟨hspace, htab⟩) current 0 rest

/-- A text of plain characters is itself an argument. -/
theorem reads_plain {ch : UInt16} {text : WideString} (hplain : (ch :: text).all isPlain = true) :
    Reads doubledQuotes (ch :: text) (ch :: text) := by
  intro rest _
  have hfrom (current argument : WideString) (hargument : argument.all isPlain = true) :
      splitFrom doubledQuotes (some current) false 0 (argument ++ rest) =
        splitFrom doubledQuotes (some (current ++ argument)) false 0 rest := by
    induction argument generalizing current with
    | nil => rw [List.nil_append, List.append_nil]
    | cons ch argument ih =>
      rw [List.all_cons, Bool.and_eq_true] at hargument
      rw [List.cons_append, splitFrom_plain hargument.1, held_some, ih _ hargument.2]
      simp
  rw [List.all_cons, Bool.and_eq_true] at hplain
  rw [List.cons_append, splitFrom_plain hplain.1]
  exact hfrom [ch] text hplain.2

end

end CommandLine
