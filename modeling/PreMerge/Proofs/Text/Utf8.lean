import Mathlib.Data.String.Basic
import Mathlib.Tactic.SplitIfs
import PreMerge.Proofs.Text.Lines
import PreMerge.Text.Utf8

/-! What the reader of UTF-8 leaves out. Bytes are read one character after the other (`Reads`): where a character
stands in full, it is read, and where none does, the longest beginning of one is dropped, or one byte. Exactly one
text is read from a byte string, and it is what the reader gives (`decode_eq_iff`). In every state of the reader some
bytes are held back (`Holds`), which are the beginning of a character; one byte more completes it, is held back
too, or shows that no character begins like that (`step_cases`). -/

namespace PreMerge.Text.Utf8

theorem follows_iff {a b : UInt8} : follows a b = true ↔
    0x80 ≤ b.toNat ∧ b.toNat ≤ 0xBF ∧ (a.toNat = 0xE0 → 0xA0 ≤ b.toNat) ∧ (a.toNat = 0xF0 → 0x90 ≤ b.toNat) ∧
      (a.toNat = 0xED → b.toNat ≤ 0x9F) ∧ (a.toNat = 0xF4 → b.toNat ≤ 0x8F) := by
  simp only [follows, Bool.and_eq_true, decide_eq_true_eq, UInt8.le_iff_toNat_le, ← UInt8.toNat_inj,
    apply_ite UInt8.toNat, UInt8.reduceToNat]
  split_ifs <;> omega

theorem continues_iff {b : UInt8} : continues b = true ↔ 0x80 ≤ b.toNat ∧ b.toNat ≤ 0xBF := by
  simp [continues, UInt8.le_iff_toNat_le]

/-- The sequences of bytes that stand for characters, with the numbers of these. -/
inductive Sequence : List UInt8 → Nat → Prop
  | one {a : UInt8} {n : Nat} (ha : a.toNat < 0x80) (hn : n = a.toNat) : Sequence [a] n
  | two {a b : UInt8} {n : Nat} (ha : 0xC2 ≤ a.toNat ∧ a.toNat < 0xE0) (hb : follows a b = true)
      (hn : n = (a.toNat - 0xC0) * 64 + b.toNat % 64) : Sequence [a, b] n
  | three {a b c : UInt8} {n : Nat} (ha : 0xE0 ≤ a.toNat ∧ a.toNat < 0xF0) (hb : follows a b = true)
      (hc : continues c = true) (hn : n = ((a.toNat - 0xE0) * 64 + b.toNat % 64) * 64 + c.toNat % 64) :
      Sequence [a, b, c] n
  | four {a b c d : UInt8} {n : Nat} (ha : 0xF0 ≤ a.toNat ∧ a.toNat ≤ 0xF4) (hb : follows a b = true)
      (hc : continues c = true) (hd : continues d = true)
      (hn : n = (((a.toNat - 0xF0) * 64 + b.toNat % 64) * 64 + c.toNat % 64) * 64 + d.toNat % 64) :
      Sequence [a, b, c, d] n

theorem sequence_encode (c : Char) : Sequence (String.utf8EncodeChar c) c.toNat := by
  have hvalid : c.toNat < 0xD800 ∨ 0xDFFF < c.toNat ∧ c.toNat < 0x110000 := c.valid
  have hbyte : ∀ n : Nat, n < 256 → (UInt8.ofNat n).toNat = n := fun n h => UInt8.toNat_ofNat_of_lt' h
  unfold String.utf8EncodeChar
  rw [Char.toNat_val]
  dsimp only
  generalize c.toNat = n at *
  have hlast := hbyte (n % 64 + 128) (by omega)
  have hmiddle := hbyte (n / 64 % 64 + 128) (by omega)
  have hsecond := hbyte (n / 4096 % 64 + 128) (by omega)
  split_ifs with hone htwo hthree
  · exact .one (by rw [hbyte n (by omega)]; omega) (hbyte n (by omega)).symm
  · have hlead := hbyte (n / 64 % 32 + 192) (by omega)
    exact .two (by omega) (follows_iff.mpr (by omega)) (by omega)
  · have hlead := hbyte (n / 4096 % 16 + 224) (by omega)
    exact .three (by omega) (follows_iff.mpr (by omega)) (continues_iff.mpr (by omega)) (by omega)
  · have hlead := hbyte (n / 262144 % 8 + 240) (by omega)
    exact .four (by omega) (follows_iff.mpr (by omega)) (continues_iff.mpr (by omega))
      (continues_iff.mpr (by omega)) (by omega)

/-- Each of these sequences stands for a character. -/
theorem Sequence.encode_ofNat {bytes : List UInt8} {n : Nat} (h : Sequence bytes n) :
    String.utf8EncodeChar (Char.ofNat n) = bytes := by
  have hbyte : ∀ {n : Nat} {a : UInt8}, n = a.toNat → UInt8.ofNat n = a := by
    intro n a hn
    rw [hn, UInt8.ofNat_toNat]
  have hchar : ∀ n : Nat, n < 0xD800 ∨ 0xDFFF < n ∧ n < 0x110000 → (Char.ofNat n).toNat = n := by
    intro n hn
    rw [Char.ofNat, dif_pos hn]
    rfl
  unfold String.utf8EncodeChar
  rw [Char.toNat_val]
  dsimp only
  cases h with
  | one ha hn => rw [hchar n (by omega), if_pos (by omega), hbyte hn]
  | @two a b n ha hb hn =>
      have hb := follows_iff.mp hb
      rw [hchar n (by omega), if_neg (by omega), if_pos (by omega), hbyte (a := a) (by omega),
        hbyte (a := b) (by omega)]
  | @three a b c n ha hb hc hn =>
      have hb := follows_iff.mp hb
      have hc := continues_iff.mp hc
      rw [hchar n (by omega), if_neg (by omega), if_neg (by omega), if_pos (by omega), hbyte (a := a) (by omega),
        hbyte (a := b) (by omega), hbyte (a := c) (by omega)]
  | @four a b c d n ha hb hc hd hn =>
      have hb := follows_iff.mp hb
      have hc := continues_iff.mp hc
      have hd := continues_iff.mp hd
      rw [hchar n (by omega), if_neg (by omega), if_neg (by omega), if_neg (by omega), hbyte (a := a) (by omega),
        hbyte (a := b) (by omega), hbyte (a := c) (by omega), hbyte (a := d) (by omega)]

theorem Sequence.bytes {a : UInt8} {more : List UInt8} {n : Nat} (h : Sequence (a :: more) n) :
    (a.toNat < 0x80 ∨ 0xC2 ≤ a.toNat ∧ a.toNat ≤ 0xF4) ∧ (∀ b, more.head? = some b → follows a b = true) ∧
      ∀ c ∈ more.tail, continues c = true := by
  cases h with
  | one ha _ => exact ⟨.inl ha, nofun, nofun⟩
  | two ha hb _ => exact ⟨.inr (by omega), fun _ h => Option.some_inj.mp h ▸ hb, nofun⟩
  | three ha hb hc _ =>
      exact ⟨.inr (by omega), fun _ h => Option.some_inj.mp h ▸ hb, List.forall_mem_singleton.mpr hc⟩
  | four ha hb hc hd _ =>
      exact ⟨.inr (by omega), fun _ h => Option.some_inj.mp h ▸ hb, List.forall_mem_cons.mpr
        ⟨hc, List.forall_mem_singleton.mpr hd⟩⟩

/-- Bytes begin with at most one character. -/
theorem encode_append_inj {c d : Char} {rest more : List UInt8}
    (h : String.utf8EncodeChar c ++ rest = String.utf8EncodeChar d ++ more) : c = d ∧ rest = more := by
  have hchar : c = d := by
    refine Option.some_inj.mp ?_
    rw [← ByteArray.utf8DecodeChar?_utf8EncodeChar_append (b := rest.toByteArray) (c := c),
      ← ByteArray.utf8DecodeChar?_utf8EncodeChar_append (b := more.toByteArray) (c := d),
      ← List.toByteArray_append, ← List.toByteArray_append, h]
  rw [hchar] at h
  exact ⟨hchar, List.append_cancel_left h⟩

/-- Whether some character begins with these bytes. -/
def Starts (part : List UInt8) : Prop :=
  ∃ c : Char, part <+: String.utf8EncodeChar c

/-- Whether no character stands at the front, and this is what is dropped there: the longest beginning of a
character, or else one byte. -/
structure Subpart (part rest : List UInt8) : Prop where
  stuck : ∀ c : Char, ¬ String.utf8EncodeChar c <+: part ++ rest
  ne_nil : part ≠ []
  starts : Starts part ∨ part.length = 1
  longest : ∀ byte, rest.head? = some byte → ¬ Starts (part ++ [byte])

/-- The texts that bytes are read as. -/
inductive Reads : List UInt8 → List Char → Prop
  | nil : Reads [] []
  | char (c : Char) {rest : List UInt8} {text : List Char} (h : Reads rest text) :
      Reads (String.utf8EncodeChar c ++ rest) (c :: text)
  | drop {part rest : List UInt8} {text : List Char} (hpart : Subpart part rest) (h : Reads rest text) :
      Reads (part ++ rest) text

theorem Starts.front {part more : List UInt8} (h : Starts more) (hpart : part <+: more) : Starts part := by
  obtain ⟨c, hc⟩ := h
  exact ⟨c, hpart.trans hc⟩

theorem Starts.bytes {a : UInt8} {more : List UInt8} (h : Starts (a :: more)) :
    (a.toNat < 0x80 ∨ 0xC2 ≤ a.toNat ∧ a.toNat ≤ 0xF4) ∧ (∀ b, more.head? = some b → follows a b = true) ∧
      ∀ c ∈ more.tail, continues c = true := by
  obtain ⟨c, rest, hc⟩ := h
  have hsequence := sequence_encode c
  rw [← hc, List.cons_append] at hsequence
  obtain ⟨ha, hb, htail⟩ := hsequence.bytes
  refine ⟨ha, ?_, ?_⟩
  · intro b hhead
    apply hb
    rw [List.head?_append, hhead, Option.some_or]
  · intro b hmem
    apply htail
    cases more with
    | nil => cases hmem
    | cons _ more => exact List.mem_append_left rest hmem

/-- What is dropped is at least as long as any other part that could be. -/
theorem Subpart.eq_of_front {part rest other more : List UInt8} (h : Subpart part rest)
    (hother : Subpart other more) (heq : part ++ rest = other ++ more) (hle : part <+: other) : part = other := by
  obtain ⟨extra, rfl⟩ := hle
  cases extra with
  | nil => rw [List.append_nil]
  | cons byte extra =>
      rw [List.append_assoc, List.append_cancel_left_eq] at heq
      have hlonger : Starts (part ++ byte :: extra) := by
        refine hother.starts.resolve_right fun hone => ?_
        have := List.length_pos_iff.mpr h.ne_nil
        rw [List.length_append, List.length_cons] at hone
        omega
      refine absurd (hlonger.front ⟨extra, ?_⟩) (h.longest byte ?_)
      · rw [List.append_assoc, List.singleton_append]
      · rw [heq, List.cons_append, List.head?_cons]

theorem Subpart.unique {part rest other more : List UInt8} (h : Subpart part rest) (hother : Subpart other more)
    (heq : part ++ rest = other ++ more) : part = other ∧ rest = more := by
  have hpart : part = other := by
    rcases List.prefix_or_prefix_of_prefix ⟨rest, rfl⟩ ⟨more, heq.symm⟩ with hle | hle
    · exact h.eq_of_front hother heq hle
    · exact (hother.eq_of_front h heq.symm hle).symm
  rw [hpart] at heq
  exact ⟨hpart, List.append_cancel_left heq⟩

theorem Reads.unique {bytes : List UInt8} {text other : List Char} (h : Reads bytes text)
    (hother : Reads bytes other) : text = other := by
  induction h generalizing other with
  | nil =>
      generalize hbytes : ([] : List UInt8) = bytes at hother
      cases hother with
      | nil => rfl
      | char c => exact absurd (List.append_eq_nil_iff.mp hbytes.symm).1 String.utf8EncodeChar_ne_nil
      | drop hpart => exact absurd (List.append_eq_nil_iff.mp hbytes.symm).1 hpart.ne_nil
  | @char c rest text _ ih =>
      generalize hbytes : String.utf8EncodeChar c ++ rest = bytes at hother
      cases hother with
      | nil => exact absurd (List.append_eq_nil_iff.mp hbytes).1 String.utf8EncodeChar_ne_nil
      | char d hmore =>
          obtain ⟨rfl, rfl⟩ := encode_append_inj hbytes
          rw [ih hmore]
      | drop hpart => exact absurd ⟨rest, hbytes⟩ (hpart.stuck c)
  | @drop part rest text hpart _ ih =>
      generalize hbytes : part ++ rest = bytes at hother
      cases hother with
      | nil => exact absurd (List.append_eq_nil_iff.mp hbytes).1 hpart.ne_nil
      | @char d more _ _ => exact absurd ⟨more, hbytes.symm⟩ (hpart.stuck d)
      | drop hmore hread =>
          obtain ⟨rfl, rfl⟩ := hpart.unique hmore hbytes
          exact ih hread

/-- The bytes held back in a state of the reader. -/
inductive Holds : State → List UInt8 → Prop
  | start : Holds .start []
  | lead {a : UInt8} (ha : 0xC2 ≤ a.toNat ∧ a.toNat ≤ 0xF4) : Holds (.lead a) [a]
  | second {a b : UInt8} {value owed : Nat} (ha : 0xE0 ≤ a.toNat ∧ a.toNat ≤ 0xF4) (hb : follows a b = true)
      (hvalue : value = leadBits a * 64 + b.toNat % 64) (howed : owed + 2 = owedAfter a) :
      Holds (.tail value owed) [a, b]
  | third {a b c : UInt8} {value : Nat} (ha : 0xF0 ≤ a.toNat ∧ a.toNat ≤ 0xF4) (hb : follows a b = true)
      (hc : continues c = true) (hvalue : value = ((a.toNat - 0xF0) * 64 + b.toNat % 64) * 64 + c.toNat % 64) :
      Holds (.tail value 0) [a, b, c]

theorem exists_follows (a : UInt8) : ∃ b, follows a b = true := by
  refine ⟨if a = 0xE0 then 0xA0 else if a = 0xF0 then 0x90 else 0x80, follows_iff.mpr ?_⟩
  simp only [← UInt8.toNat_inj, UInt8.reduceToNat]
  split_ifs <;> simp only [UInt8.reduceToNat] <;> omega

/-- Some character begins with what is held back, and goes on. -/
theorem Holds.extends {state : State} {done : List UInt8} (h : Holds state done) :
    ∃ c more, String.utf8EncodeChar c = done ++ more ∧ more ≠ [] := by
  have hlast : continues 0x80 = true := rfl
  cases h with
  | start => exact ⟨'a', _, (List.nil_append _).symm, String.utf8EncodeChar_ne_nil⟩
  | @lead a ha =>
      obtain ⟨b, hb⟩ := exists_follows a
      rcases Nat.lt_or_ge a.toNat 0xE0 with htwo | hlarger
      · exact ⟨_, [b], (Sequence.two ⟨ha.1, htwo⟩ hb rfl).encode_ofNat, List.cons_ne_nil _ _⟩
      · rcases Nat.lt_or_ge a.toNat 0xF0 with hthree | hfour
        · exact ⟨_, [b, 0x80], (Sequence.three ⟨hlarger, hthree⟩ hb hlast rfl).encode_ofNat, List.cons_ne_nil _ _⟩
        · exact ⟨_, [b, 0x80, 0x80], (Sequence.four ⟨hfour, ha.2⟩ hb hlast hlast rfl).encode_ofNat,
            List.cons_ne_nil _ _⟩
  | @second a b _ _ ha hb _ _ =>
      rcases Nat.lt_or_ge a.toNat 0xF0 with hthree | hfour
      · exact ⟨_, [0x80], (Sequence.three ⟨ha.1, hthree⟩ hb hlast rfl).encode_ofNat, List.cons_ne_nil _ _⟩
      · exact ⟨_, [0x80, 0x80], (Sequence.four ⟨hfour, ha.2⟩ hb hlast hlast rfl).encode_ofNat,
          List.cons_ne_nil _ _⟩
  | third ha hb hc _ =>
      exact ⟨_, [0x80], (Sequence.four ha hb hc hlast rfl).encode_ofNat, List.cons_ne_nil _ _⟩

theorem owedAfter_eq (a : UInt8) :
    owedAfter a = if a.toNat < 0xE0 then 1 else if a.toNat < 0xF0 then 2 else 3 := rfl

theorem leadBits_eq (a : UInt8) : leadBits a = if a.toNat < 0xE0 then a.toNat - 0xC0
    else if a.toNat < 0xF0 then a.toNat - 0xE0 else a.toNat - 0xF0 := rfl

theorem begin_cases (byte : UInt8) :
    (∃ c, begin byte = ([c], .start) ∧ String.utf8EncodeChar c = [byte]) ∨
    (begin byte = ([], .lead byte) ∧ Holds (.lead byte) [byte]) ∨
    (begin byte = ([], .start) ∧ ¬ Starts [byte]) := by
  have hsmall : byte < 0x80 ↔ byte.toNat < 0x80 := Iff.rfl
  have hlead : 0xC2 ≤ byte ∧ byte ≤ 0xF4 ↔ 0xC2 ≤ byte.toNat ∧ byte.toNat ≤ 0xF4 := Iff.rfl
  unfold begin
  split_ifs with hone hmore
  · exact .inl ⟨_, rfl, (Sequence.one (hsmall.mp hone) rfl).encode_ofNat⟩
  · exact .inr (.inl ⟨rfl, .lead (hlead.mp hmore)⟩)
  · exact .inr (.inr ⟨rfl, fun h => h.bytes.1.elim (hone ∘ hsmall.mpr) (hmore ∘ hlead.mpr)⟩)

/-- One byte more is held back too, completes a character, or cannot go on what is held back. -/
theorem step_cases {state : State} {done : List UInt8} (h : Holds state done) (byte : UInt8) :
    (∃ next, step state byte = ([], next) ∧ Holds next (done ++ [byte])) ∨
    (∃ c, step state byte = ([c], .start) ∧ String.utf8EncodeChar c = done ++ [byte]) ∨
    (step state byte = begin byte ∧ ¬ Starts (done ++ [byte])) := by
  cases h with
  | start =>
      rcases begin_cases byte with hchar | ⟨hlead, hholds⟩ | ⟨-, hstarts⟩
      · exact .inr (.inl hchar)
      · exact .inl ⟨_, hlead, hholds⟩
      · exact .inr (.inr ⟨rfl, hstarts⟩)
  | @lead a ha =>
      by_cases hb : follows a byte = true
      · have hbits := leadBits_eq a
        have howed := owedAfter_eq a
        rw [step, if_pos hb]
        rcases Nat.lt_or_ge a.toNat 0xE0 with htwo | hlarger
        · rw [if_pos htwo] at hbits howed
          rw [hbits, howed]
          exact .inr (.inl ⟨_, rfl, (Sequence.two ⟨ha.1, htwo⟩ hb rfl).encode_ofNat⟩)
        · obtain ⟨owed, howed⟩ : ∃ owed, owedAfter a = owed + 2 := by
            rw [howed, if_neg (by omega)]
            split_ifs
            · exact ⟨0, rfl⟩
            · exact ⟨1, rfl⟩
          rw [howed]
          exact .inl ⟨_, rfl, .second ⟨hlarger, ha.2⟩ hb rfl howed.symm⟩
      · rw [step, if_neg hb]
        exact .inr (.inr ⟨rfl, fun h => hb (h.bytes.2.1 byte rfl)⟩)
  | @second a b value owed ha hb hvalue howed =>
      by_cases hc : continues byte = true
      · have hbits := leadBits_eq a
        have howed' := owedAfter_eq a
        rw [step, if_pos hc]
        rw [if_neg (by omega)] at hbits howed'
        rcases Nat.lt_or_ge a.toNat 0xF0 with hthree | hfour
        · rw [if_pos hthree] at hbits howed'
          obtain rfl : owed = 0 := by omega
          exact .inr (.inl ⟨_, rfl, (Sequence.three ⟨ha.1, hthree⟩ hb hc (by rw [hvalue, hbits])).encode_ofNat⟩)
        · rw [if_neg (by omega)] at hbits howed'
          obtain rfl : owed = 1 := by omega
          exact .inl ⟨_, rfl, .third ⟨hfour, ha.2⟩ hb hc (by rw [hvalue, hbits])⟩
      · rw [step, if_neg hc]
        exact .inr (.inr ⟨rfl, fun h => hc (h.bytes.2.2 byte (List.mem_singleton.mpr rfl))⟩)
  | @third a b c value ha hb hc hvalue =>
      by_cases hd : continues byte = true
      · rw [step, if_pos hd]
        exact .inr (.inl ⟨_, rfl, (Sequence.four ha hb hc hd (by rw [hvalue])).encode_ofNat⟩)
      · rw [step, if_neg hd]
        exact .inr (.inr ⟨rfl, fun h => hd (h.bytes.2.2 byte (by simp))⟩)

theorem Holds.starts {state : State} {done : List UInt8} (h : Holds state done) : Starts done := by
  obtain ⟨c, more, hc, -⟩ := h.extends
  exact ⟨c, more, hc.symm⟩

/-- What is held back is dropped by a byte that cannot go on it, and at the end. -/
theorem Holds.subpart {state : State} {done rest : List UInt8} (h : Holds state done) (hne : done ≠ [])
    (hrest : ∀ byte, rest.head? = some byte → ¬ Starts (done ++ [byte])) : Subpart done rest := by
  refine ⟨?_, hne, .inl h.starts, hrest⟩
  intro c hc
  obtain ⟨d, more, hd, hmore⟩ := h.extends
  rcases List.prefix_or_prefix_of_prefix hc ⟨rest, rfl⟩ with hshort | ⟨extra, hlong⟩
  · obtain ⟨extra, rfl⟩ := hshort
    rw [← List.append_nil (String.utf8EncodeChar d), List.append_assoc] at hd
    exact hmore (List.append_eq_nil_iff.mp (encode_append_inj hd).2.symm).2
  · cases extra with
    | nil =>
        rw [List.append_nil] at hlong
        rw [hlong, ← List.append_nil (String.utf8EncodeChar d)] at hd
        exact hmore (encode_append_inj hd).2.symm
    | cons byte extra =>
        refine hrest byte ?_ ⟨c, extra, ?_⟩
        · rw [← hlong, List.prefix_append_right_inj] at hc
          obtain ⟨_, rfl⟩ := hc
          rfl
        · rw [List.append_assoc, List.singleton_append, hlong]

theorem subpart_singleton {byte : UInt8} (h : ¬ Starts [byte]) (rest : List UInt8) : Subpart [byte] rest := by
  refine ⟨?_, List.cons_ne_nil _ _, .inr rfl, fun next _ hstarts => h (hstarts.front ⟨[next], rfl⟩)⟩
  intro c hc
  rcases List.prefix_cons_iff.mp hc with hnil | ⟨more, hmore, -⟩
  · exact String.utf8EncodeChar_ne_nil hnil
  · exact h ⟨c, more, hmore.symm⟩

/-- The bytes held back and those to come are read as the reader reads the latter. -/
theorem reads_decodeFrom {state : State} {done : List UInt8} (h : Holds state done) (bytes : List UInt8) :
    Reads (done ++ bytes) (decodeFrom state bytes) := by
  induction bytes generalizing state done with
  | nil =>
      by_cases hne : done = []
      · rw [hne]
        exact .nil
      · exact .drop (h.subpart hne nofun) .nil
  | cons byte bytes ih =>
      have hnext : ∀ state done {next}, step state byte = ([], next) → Holds next (done ++ [byte]) →
          Reads (done ++ byte :: bytes) (decodeFrom state (byte :: bytes)) := by
        intro state done next hstep hheld
        rw [decodeFrom, hstep, List.append_cons]
        exact ih hheld
      have hchar : ∀ state done {c}, step state byte = ([c], .start) → String.utf8EncodeChar c = done ++ [byte] →
          Reads (done ++ byte :: bytes) (decodeFrom state (byte :: bytes)) := by
        intro state done c hstep hc
        rw [decodeFrom, hstep, List.append_cons, ← hc]
        exact .char c (ih .start)
      -- a byte that cannot go on is read afresh, so the start comes first
      have hstart : Reads (byte :: bytes) (decode (byte :: bytes)) := by
        rcases begin_cases byte with ⟨c, hstep, hc⟩ | ⟨hstep, hheld⟩ | ⟨hstep, hstarts⟩
        · exact hchar .start [] hstep hc
        · exact hnext .start [] hstep hheld
        · rw [decode, decodeFrom, step, hstep]
          exact .drop (subpart_singleton hstarts bytes) (ih .start)
      rcases step_cases h byte with ⟨next, hstep, hheld⟩ | ⟨c, hstep, hc⟩ | ⟨hstep, hstarts⟩
      · exact hnext state done hstep hheld
      · exact hchar state done hstep hc
      · have hsame : decodeFrom state (byte :: bytes) = decode (byte :: bytes) := by
          rw [decode, decodeFrom, decodeFrom, hstep]
          rfl
        rw [hsame]
        by_cases hne : done = []
        · rw [hne]
          exact hstart
        · refine .drop (h.subpart hne fun next hhead => ?_) hstart
          rw [← Option.some_inj.mp hhead]
          exact hstarts

/-- The reader gives the one text that bytes are read as. -/
theorem decode_eq_iff {bytes : List UInt8} {text : List Char} : decode bytes = text ↔ Reads bytes text := by
  constructor
  · rintro rfl
    exact reads_decodeFrom .start bytes
  · exact (reads_decodeFrom .start bytes).unique

/-- A character that is read stands in the bytes. -/
theorem Reads.encode_occurs {bytes : List UInt8} {text : List Char} (h : Reads bytes text) {c : Char} (hc : c ∈ text) :
    String.utf8EncodeChar c <:+: bytes := by
  induction h with
  | nil => cases hc
  | char d _ ih =>
      rcases List.mem_cons.mp hc with rfl | hmore
      · exact (List.prefix_append _ _).isInfix
      · exact (ih hmore).trans (List.suffix_append _ _).isInfix
  | drop _ _ ih => exact (ih hc).trans (List.suffix_append _ _).isInfix

theorem feed_not_mem_decode {bytes : List UInt8} (h : 0x0A ∉ bytes) : '\n' ∉ decode bytes := by
  intro hfeed
  have hbyte : [0x0A] <:+: bytes := (decode_eq_iff.mp rfl).encode_occurs hfeed
  exact h (hbyte.subset List.mem_cons_self)

/-- The bytes below 0x80 are characters by themselves, whatever is around them. -/
theorem decode_append_ascii (x y : List UInt8) {a : UInt8} (ha : a < 0x80) :
    decode (x ++ a :: y) = decode x ++ Char.ofNat a.toNat :: decode y :=
  decodeFrom_append_ascii .start x y ha

/-- Several such bytes stay together. -/
theorem decode_append_run (x y : List UInt8) {run : List UInt8} (hne : run ≠ []) (hrun : ∀ a ∈ run, a < 0x80) :
    decode (x ++ run ++ y) = decode x ++ (run.map fun a => Char.ofNat a.toNat) ++ decode y := by
  induction run generalizing x with
  | nil => exact absurd rfl hne
  | cons a run ih =>
      rw [List.forall_mem_cons] at hrun
      by_cases hmore : run = []
      · rw [hmore, List.append_assoc, List.singleton_append, decode_append_ascii x y hrun.1]
        simp
      · have hfirst : decode (x ++ [a]) = decode x ++ [Char.ofNat a.toNat] := decode_append_ascii x [] hrun.1
        rw [List.append_cons x a run, ih (x ++ [a]) hmore hrun.2, hfirst, List.map_cons, ← List.append_cons]

/-- Bytes may be cut into lines before they are read. -/
theorem pieces_decode (bytes : List UInt8) : pieces '\n' (decode bytes) = (pieces 0x0A bytes).map decode := by
  induction bytes using pieces_induction (0x0A : UInt8) with
  | whole bytes hfeed =>
      rw [pieces_of_not_mem hfeed, pieces_of_not_mem (feed_not_mem_decode hfeed), List.map_singleton]
  | cut line rest hline ih =>
      have hcut : decode (line ++ 0x0A :: rest) = decode line ++ '\n' :: decode rest :=
        decode_append_ascii line rest (by decide)
      rw [hcut, pieces_cons_of_not_mem hline, pieces_cons_of_not_mem (feed_not_mem_decode hline), ih, List.map_cons]

end PreMerge.Text.Utf8
