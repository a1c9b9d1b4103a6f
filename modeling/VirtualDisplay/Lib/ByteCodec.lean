import VirtualDisplay.Lib.Bits

/-!
# Readers and writers of byte strings

A writer appends the bytes of a value to a byte string, and a reader takes a value from a byte
string at an offset and says where it ended.  `Reads valid append read size` says that the two
belong together: what has been written is read back, and a value that has been read, written behind
the bytes before it, gives the bytes up to where the reader stopped.  Neither half implies the
other: the first is about all values, the second about all byte strings.

* `Reads.pair`, `Reads.map`, `Reads.guard` — one field behind another, a record made of its
  fields, a field that is checked when it is read.
* `Reads.readMany_foldl`, `Reads.foldl_readMany` — a number of values one behind the other.
* `Reads.of_bytes` — a value that is a function of the next few bytes.
-/

set_option autoImplicit false

namespace ByteCodec

variable {α β : Type}

/-- Takes a value from the byte string at the offset; the offset behind it comes with the value. -/
abbrev Reader (α : Type) := List UInt8 → Nat → Option (α × Nat)

/-- Puts the value behind the byte string. -/
abbrev Writer (α : Type) := List UInt8 → α → List UInt8

/-- The reader reads what the writer writes, if the value is valid, and nothing else. -/
structure Reads (valid : α → Prop) (append : Writer α) (read : Reader α) (size : Nat) : Prop where
  append_eq : ∀ (blob : List UInt8) (a : α), append blob a = blob ++ append [] a
  length : ∀ a : α, (append [] a).length = size
  read_append : ∀ (blob : List UInt8) (a : α) (rest : List UInt8), valid a →
    read (append blob a ++ rest) blob.length = some (a, blob.length + size)
  append_read : ∀ (blob : List UInt8) (offset : Nat) (a : α) (offset' : Nat),
    read blob offset = some (a, offset') → valid a ∧ offset' = offset + size ∧
      offset' ≤ blob.length ∧ append (blob.take offset) a = blob.take offset'

/-- One value behind another. -/
def readPair (read : Reader α) (read' : Reader β) : Reader (α × β) := fun blob offset ↦ do
  let (a, offset) ← read blob offset
  let (b, offset) ← read' blob offset
  some ((a, b), offset)

namespace Reads

variable {valid : α → Prop} {append : Writer α} {read : Reader α} {size : Nat}
  {valid' : β → Prop} {append' : Writer β} {read' : Reader β} {size' : Nat}

theorem length_append (h : Reads valid append read size) (blob : List UInt8) (a : α) :
    (append blob a).length = blob.length + size := by
  rw [h.append_eq, List.length_append, h.length]

theorem congr (h : Reads valid append read size) {valid₁ : α → Prop} {append₁ : Writer α}
    {read₁ : Reader α} (hvalid : ∀ a, valid₁ a ↔ valid a) (happend : append₁ = append)
    (hread : read₁ = read) : Reads valid₁ append₁ read₁ size := by
  obtain rfl : valid₁ = valid := funext fun a ↦ propext (hvalid a)
  rw [happend, hread]
  exact h

theorem pair (h : Reads valid append read size) (h' : Reads valid' append' read' size') :
    Reads (fun p : α × β ↦ valid p.1 ∧ valid' p.2) (fun blob p ↦ append' (append blob p.1) p.2)
      (readPair read read') (size + size') where
  append_eq blob p := by
    rw [h'.append_eq (append blob p.1), h'.append_eq (append [] p.1), h.append_eq blob,
      List.append_assoc]
  length p := by rw [h'.length_append, h.length]
  read_append blob p rest hp := by
    have hfirst : read (append' (append blob p.1) p.2 ++ rest) blob.length =
        some (p.1, blob.length + size) := by
      rw [h'.append_eq, List.append_assoc]
      exact h.read_append blob p.1 _ hp.1
    have hsecond : read' (append' (append blob p.1) p.2 ++ rest) (blob.length + size) =
        some (p.2, blob.length + size + size') := by
      rw [← h.length_append blob p.1]
      exact h'.read_append (append blob p.1) p.2 rest hp.2
    simp only [readPair, hfirst, hsecond, Option.bind_eq_bind, Option.bind_some, Nat.add_assoc]
  append_read blob offset p offset' hread := by
    simp only [readPair, Option.bind_eq_bind, Option.bind_eq_some_iff, Option.some_inj,
      Prod.exists] at hread
    obtain ⟨a, offset₁, ha, b, offset₂, hb, heq⟩ := hread
    cases heq
    obtain ⟨hva, rfl, -, hwa⟩ := h.append_read blob offset a offset₁ ha
    obtain ⟨hvb, rfl, hle, hwb⟩ := h'.append_read blob _ b _ hb
    refine ⟨⟨hva, hvb⟩, Nat.add_assoc .., hle, ?_⟩
    rw [← hwb, ← hwa]

/-- The same bytes read as another value. -/
theorem map (h : Reads valid append read size) (toFun : α → β) (invFun : β → α)
    (left : ∀ a, invFun (toFun a) = a) (right : ∀ b, toFun (invFun b) = b) :
    Reads (fun b ↦ valid (invFun b)) (fun blob b ↦ append blob (invFun b))
      (fun blob offset ↦ (read blob offset).map fun r ↦ (toFun r.1, r.2)) size where
  append_eq blob b := h.append_eq blob (invFun b)
  length b := h.length (invFun b)
  read_append blob b rest hb := by
    rw [h.read_append blob (invFun b) rest hb, Option.map_some, right]
  append_read blob offset b offset' hread := by
    obtain ⟨⟨a, offset₁⟩, ha, heq⟩ := Option.map_eq_some_iff.mp hread
    cases heq
    dsimp only
    rw [left]
    exact h.append_read blob offset a offset₁ ha

/-- A value that is checked when it has been read. -/
theorem guard (h : Reads valid append read size) (test : α → Bool) :
    Reads (fun a ↦ valid a ∧ test a = true) append
      (fun blob offset ↦ (read blob offset).filter fun r ↦ test r.1) size where
  append_eq := h.append_eq
  length := h.length
  read_append blob a rest ha := by
    rw [h.read_append blob a rest ha.1, Option.filter_some_pos]
    exact ha.2
  append_read blob offset a offset' hread := by
    obtain ⟨ha, htest⟩ := Option.filter_eq_some_iff.mp hread
    obtain ⟨hvalid, hrest⟩ := h.append_read blob offset a offset' ha
    exact ⟨⟨hvalid, htest⟩, hrest⟩

end Reads

/-! ## Several values -/

/-- Read `count` values, one behind the other. -/
def readMany (read : Reader α) : Nat → Reader (List α)
  | 0, _, offset => some ([], offset)
  | count + 1, blob, offset => do
    let (a, offset) ← read blob offset
    let (rest, offset) ← readMany read count blob offset
    some (a :: rest, offset)

namespace Reads

variable {valid : α → Prop} {append : Writer α} {read : Reader α} {size : Nat}

theorem foldl_append_eq (h : Reads valid append read size) (l : List α) (blob : List UInt8) :
    l.foldl append blob = blob ++ l.foldl append [] := by
  induction l generalizing blob with
  | nil => simp
  | cons a l ih =>
    rw [List.foldl_cons, List.foldl_cons, ih, ih (append [] a), h.append_eq blob,
      List.append_assoc]

theorem length_foldl_append (h : Reads valid append read size) (l : List α) (blob : List UInt8) :
    (l.foldl append blob).length = blob.length + l.length * size := by
  induction l generalizing blob with
  | nil => simp
  | cons a l ih =>
    rw [List.foldl_cons, ih, h.length_append, List.length_cons, Nat.add_mul, Nat.one_mul]
    omega

/-- What a loop has written a loop reads back. -/
theorem readMany_foldl (h : Reads valid append read size) (l : List α) (blob : List UInt8)
    (rest : List UInt8) (hl : ∀ a ∈ l, valid a) :
    readMany read l.length (l.foldl append blob ++ rest) blob.length =
      some (l, blob.length + l.length * size) := by
  induction l generalizing blob with
  | nil => simp [readMany]
  | cons a l ih =>
    have hfirst : read (l.foldl append (append blob a) ++ rest) blob.length =
        some (a, blob.length + size) := by
      rw [h.foldl_append_eq, List.append_assoc]
      exact h.read_append blob a _ (hl a List.mem_cons_self)
    have hrest := ih (append blob a) fun b hb ↦ hl b (List.mem_cons_of_mem _ hb)
    rw [h.length_append] at hrest
    rw [List.foldl_cons, List.length_cons, readMany]
    simp only [hfirst, hrest, Option.bind_eq_bind, Option.bind_some, Option.some_inj,
      Prod.mk.injEq, true_and]
    rw [Nat.add_mul, Nat.one_mul]
    omega

/-- Writing what a loop has read gives the bytes it has read. -/
theorem foldl_readMany (h : Reads valid append read size) {count : Nat} {blob : List UInt8}
    {offset offset' : Nat} {l : List α}
    (hread : readMany read count blob offset = some (l, offset'))
    (hoffset : offset ≤ blob.length) :
    l.length = count ∧ (∀ a ∈ l, valid a) ∧ offset' = offset + count * size ∧
      offset' ≤ blob.length ∧ l.foldl append (blob.take offset) = blob.take offset' := by
  induction count generalizing offset l with
  | zero =>
    cases hread
    exact ⟨rfl, fun a ha ↦ (nomatch ha), by simp, hoffset, rfl⟩
  | succ count ih =>
    rw [readMany] at hread
    simp only [Option.bind_eq_bind, Option.bind_eq_some_iff, Option.some_inj, Prod.exists] at hread
    obtain ⟨a, offset₁, ha, rest, offset₂, hrest, heq⟩ := hread
    cases heq
    obtain ⟨hva, rfl, hle, hwa⟩ := h.append_read blob offset a offset₁ ha
    obtain ⟨hlength, hvalid, rfl, hle', hw⟩ := ih hrest hle
    refine ⟨by rw [List.length_cons, hlength], ?_, ?_, hle', ?_⟩
    · exact List.forall_mem_cons.mpr ⟨hva, hvalid⟩
    · rw [Nat.add_mul, Nat.one_mul]
      omega
    · rw [List.foldl_cons, hwa, hw]

/-! ## A few bytes -/

/-- A value that is a function of the next `size` bytes, and they of it. -/
theorem of_bytes {encode : α → List UInt8} {decode : List UInt8 → α} {size : Nat}
    {append : Writer α} {read : Reader α} (hlength : ∀ a, (encode a).length = size)
    (hdecode : ∀ a, decode (encode a) = a)
    (hencode : ∀ bytes : List UInt8, bytes.length = size → encode (decode bytes) = bytes)
    (happend : ∀ blob a, append blob a = blob ++ encode a)
    (hread : ∀ blob offset, read blob offset =
      if offset + size ≤ blob.length then
        some (decode ((blob.drop offset).take size), offset + size)
      else none) :
    Reads (fun _ ↦ True) append read size where
  append_eq blob a := by rw [happend, happend [], List.nil_append]
  length a := by rw [happend, List.nil_append, hlength]
  read_append blob a rest _ := by
    have hbytes : ((append blob a ++ rest).drop blob.length).take size = encode a := by
      rw [happend, List.append_assoc, List.drop_left, ← hlength a, List.take_left]
    have hfits : blob.length + size ≤ (append blob a ++ rest).length := by
      rw [happend, List.length_append, List.length_append, hlength]
      omega
    rw [hread, if_pos hfits, hbytes, hdecode]
  append_read blob offset a offset' h := by
    rw [hread] at h
    split_ifs at h with hfits
    cases h
    refine ⟨trivial, rfl, hfits, ?_⟩
    have hbytes : ((blob.drop offset).take size).length = size := by
      rw [List.length_take, List.length_drop]
      omega
    rw [happend, hencode _ hbytes, List.take_add]

end Reads

/-! ## Bytes at an offset -/

/-- The bytes a reader finds behind an offset. -/
theorem getD_take_drop (blob : List UInt8) (offset : Nat) {i size : Nat} (hi : i < size) :
    ((blob.drop offset).take size).getD i 0 = blob.getD (offset + i) 0 := by
  rw [List.getD_eq_getElem?_getD, List.getElem?_take_of_lt hi, List.getElem?_drop,
    List.getD_eq_getElem?_getD]

end ByteCodec
