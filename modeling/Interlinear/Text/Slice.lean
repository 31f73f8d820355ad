import Interlinear.Text.Utf8

set_option autoImplicit false

/-! # Pieces of a text

A piece of a text is told by the numbers of bytes before its start and before its end (`slice?`).
There is no such piece if one of the two falls inside a character or beyond the end of the text.
Where pieces are counted in characters, the counts are turned into numbers of bytes (`heads?`). -/

namespace Interlinear.Text

/-- The characters after the first `n` bytes. -/
def dropBytes? : Nat → List Char → Option (List Char)
  | 0, cs => some cs
  | _ + 1, [] => none
  | n + 1, c :: cs => if c.utf8Size ≤ n + 1 then dropBytes? (n + 1 - c.utf8Size) cs else none

/-- The characters of the first `n` bytes. -/
def takeBytes? : Nat → List Char → Option (List Char)
  | 0, _ => some []
  | _ + 1, [] => none
  | n + 1, c :: cs =>
    if c.utf8Size ≤ n + 1 then (takeBytes? (n + 1 - c.utf8Size) cs).map (c :: ·) else none

/-- The piece of a text from the byte `start` up to the byte `stop`. -/
def slice? (text : String) (start stop : Nat) : Option String :=
  if start ≤ stop then
    ((dropBytes? start text.toList).bind (takeBytes? (stop - start))).map String.ofList
  else none

/-- The numbers of bytes up to the end of each character, where `start` bytes stand before. -/
def endsFrom (start : Nat) : List Char → List Nat
  | [] => []
  | c :: cs => (start + c.utf8Size) :: endsFrom (start + c.utf8Size) cs

/-- The pieces of a text from its start on that have some numbers of characters. The number zero is
left out. None if the text is shorter than one of them. -/
def heads? (text : String) (counts : List Nat) : Option (List String) :=
  let ends := endsFrom 0 text.toList
  (counts.filter (· != 0)).mapM fun n => ends[n - 1]?.bind (slice? text 0)

/-! ## Byte lengths -/

@[simp]
theorem byteLength_append (s t : String) : byteLength (s ++ t) = byteLength s + byteLength t :=
  String.utf8ByteSize_append

theorem byteLength_pos {s : String} (h : s ≠ "") : 0 < byteLength s :=
  Nat.pos_of_ne_zero fun h0 => h (String.utf8ByteSize_eq_zero_iff.1 h0)

theorem byteLength_ofList_cons (c : Char) (cs : List Char) :
    byteLength (String.ofList (c :: cs)) = c.utf8Size + byteLength (String.ofList cs) := by
  rw [String.ofList_cons, byteLength_append]
  exact congrArg (· + _) String.utf8ByteSize_singleton

theorem byteLength_ofList_append (cs ds : List Char) :
    byteLength (String.ofList (cs ++ ds))
      = byteLength (String.ofList cs) + byteLength (String.ofList ds) := by
  rw [String.ofList_append, byteLength_append]

/-! ## Pieces -/

theorem dropBytes?_append (cs ds : List Char) :
    dropBytes? (byteLength (String.ofList cs)) (cs ++ ds) = some ds := by
  induction cs with
  | nil => cases ds <;> rfl
  | cons c cs ih =>
      have hc := c.utf8Size_pos
      rw [byteLength_ofList_cons, List.cons_append]
      obtain ⟨n, hn⟩ : ∃ n, c.utf8Size + byteLength (String.ofList cs) = n + 1 :=
        ⟨c.utf8Size + byteLength (String.ofList cs) - 1, by omega⟩
      rw [hn, dropBytes?, if_pos (by omega), ← hn, Nat.add_sub_cancel_left, ih]

theorem takeBytes?_append (cs ds : List Char) :
    takeBytes? (byteLength (String.ofList cs)) (cs ++ ds) = some cs := by
  induction cs with
  | nil => cases ds <;> rfl
  | cons c cs ih =>
      have hc := c.utf8Size_pos
      rw [byteLength_ofList_cons, List.cons_append]
      obtain ⟨n, hn⟩ : ∃ n, c.utf8Size + byteLength (String.ofList cs) = n + 1 :=
        ⟨c.utf8Size + byteLength (String.ofList cs) - 1, by omega⟩
      rw [hn, takeBytes?, if_pos (by omega), ← hn, Nat.add_sub_cancel_left, ih, Option.map_some]

theorem exists_of_dropBytes? {n : Nat} {cs ds : List Char} (h : dropBytes? n cs = some ds) :
    ∃ es, cs = es ++ ds ∧ byteLength (String.ofList es) = n := by
  induction cs generalizing n with
  | nil =>
      cases n with
      | zero =>
          obtain rfl := Option.some.inj h
          exact ⟨[], rfl, rfl⟩
      | succ n => simp [dropBytes?] at h
  | cons c cs ih =>
      cases n with
      | zero =>
          obtain rfl := Option.some.inj h
          exact ⟨[], rfl, rfl⟩
      | succ n =>
          rw [dropBytes?] at h
          split at h
          next hc =>
            obtain ⟨es, rfl, hes⟩ := ih h
            exact ⟨c :: es, rfl, by rw [byteLength_ofList_cons, hes]; omega⟩
          next => contradiction

theorem exists_of_takeBytes? {n : Nat} {cs ds : List Char} (h : takeBytes? n cs = some ds) :
    ∃ es, cs = ds ++ es ∧ byteLength (String.ofList ds) = n := by
  induction cs generalizing n ds with
  | nil =>
      cases n with
      | zero =>
          obtain rfl := Option.some.inj h
          exact ⟨[], rfl, rfl⟩
      | succ n => simp [takeBytes?] at h
  | cons c cs ih =>
      cases n with
      | zero =>
          obtain rfl := Option.some.inj h
          exact ⟨c :: cs, rfl, rfl⟩
      | succ n =>
          rw [takeBytes?] at h
          split at h
          next hc =>
            obtain ⟨ds, hds, rfl⟩ := Option.map_eq_some_iff.1 h
            obtain ⟨es, rfl, hlen⟩ := ih hds
            exact ⟨es, rfl, by rw [byteLength_ofList_cons, hlen]; omega⟩
          next => contradiction

/-- A piece is found where a text is put together of what stands before it, the piece itself and
what stands after it. -/
theorem slice?_append (before piece after : String) :
    slice? (before ++ piece ++ after) (byteLength before) (byteLength before + byteLength piece)
      = some piece := by
  have hdrop : dropBytes? (byteLength before) (before ++ piece ++ after).toList
      = some (piece.toList ++ after.toList) := by
    have h := dropBytes?_append before.toList (piece.toList ++ after.toList)
    rwa [String.ofList_toList, ← List.append_assoc, ← String.toList_append,
      ← String.toList_append] at h
  have htake :
      takeBytes? (byteLength piece) (piece.toList ++ after.toList) = some piece.toList := by
    have h := takeBytes?_append piece.toList after.toList
    rwa [String.ofList_toList] at h
  rw [slice?, if_pos (Nat.le_add_right _ _), hdrop, Option.bind_some, Nat.add_sub_cancel_left,
    htake, Option.map_some, String.ofList_toList]

/-- There is no other way to find a piece: its start and its end fall between two characters. -/
theorem slice?_eq_some_iff {text piece : String} {start stop : Nat} :
    slice? text start stop = some piece ↔
      ∃ before after, text = before ++ piece ++ after ∧ byteLength before = start ∧
        start + byteLength piece = stop := by
  constructor
  · intro h
    rw [slice?] at h
    split at h
    next hle =>
      obtain ⟨cs, hcs, rfl⟩ := Option.map_eq_some_iff.1 h
      obtain ⟨rest, hrest, htake⟩ := Option.bind_eq_some_iff.1 hcs
      obtain ⟨before, htext, hstart⟩ := exists_of_dropBytes? hrest
      obtain ⟨after, rfl, hlen⟩ := exists_of_takeBytes? htake
      refine ⟨String.ofList before, String.ofList after, ?_, hstart, by omega⟩
      rw [← String.toList_inj, htext]
      simp
    next => contradiction
  · rintro ⟨before, after, rfl, rfl, rfl⟩
    exact slice?_append before piece after

/-! ## Pieces from the start -/

/-- The end of a character is as many bytes away as the characters up to it take. -/
theorem getElem?_endsFrom {cs : List Char} (start : Nat) {n : Nat} (h : n < cs.length) :
    (endsFrom start cs)[n]? = some (start + byteLength (String.ofList (cs.take (n + 1)))) := by
  induction cs generalizing start n with
  | nil => simp at h
  | cons c cs ih =>
      rw [List.take_succ_cons, byteLength_ofList_cons, endsFrom]
      cases n with
      | zero => rfl
      | succ n =>
          have hn : n < cs.length := by simpa using h
          rw [List.getElem?_cons_succ, ih _ hn, Nat.add_assoc]

theorem slice?_take (text : String) (n : Nat) :
    slice? text 0 (byteLength (String.ofList (text.toList.take n)))
      = some (String.ofList (text.toList.take n)) := by
  rw [slice?_eq_some_iff]
  refine ⟨"", String.ofList (text.toList.drop n), ?_, rfl, Nat.zero_add _⟩
  rw [String.empty_append, ← String.ofList_append, List.take_append_drop, String.ofList_toList]

/-- Numbers of characters that the text has lead to its pieces: no end is beyond the text, and none
is inside a character. -/
theorem heads?_eq_some {text : String} {counts : List Nat}
    (h : ∀ n ∈ counts, n ≤ text.toList.length) :
    heads? text counts
      = some ((counts.filter (· != 0)).map fun n => String.ofList (text.toList.take n)) := by
  rw [heads?]
  induction counts with
  | nil => rfl
  | cons n counts ih =>
      obtain ⟨hn, hcounts⟩ := List.forall_mem_cons.1 h
      by_cases hzero : n = 0
      · rw [List.filter_cons_of_neg (by simpa using hzero)]
        exact ih hcounts
      · have hlt : n - 1 < text.toList.length := by omega
        have hpiece : (endsFrom 0 text.toList)[n - 1]?.bind (slice? text 0)
            = some (String.ofList (text.toList.take n)) := by
          rw [getElem?_endsFrom 0 hlt, Nat.sub_add_cancel (Nat.pos_of_ne_zero hzero), Nat.zero_add,
            Option.bind_some, slice?_take]
        rw [List.filter_cons_of_pos (by simpa using hzero), List.mapM_cons, List.map_cons, hpiece,
          ih hcounts]
        rfl

end Interlinear.Text
