import SmtScript.Text.Utf8
import Mathlib.Data.List.Infix
import Mathlib.Tactic.GCongr
import Mathlib.Tactic.Ring

/-!
# What lenient decoding means

Bytes fall apart into characters and invalid stretches. A character stands for itself. Where none
stands, the invalid stretch is the longest start of one, or else a single byte, and it becomes one
replacement character. Decoding reads byte by byte and knows nothing of what is to come; what it
knows instead is the range of the next byte, and that range is exact: a byte in it can always be
continued to a character, and a byte outside never.
-/

namespace SmtScript.Utf8

/-! ## The meaning of bytes -/

/-- A character begins with these bytes. -/
def Begins (bytes : Bytes) : Prop :=
  ∃ c, bytes <+: String.utf8EncodeChar c

/-- No character stands at the front of the bytes, and what is cut off is the longest start of one
that does, or else a single byte. -/
structure IsInvalid (bad rest : Bytes) : Prop where
  ne_nil : bad ≠ []
  no_char : ∀ c, ¬ String.utf8EncodeChar c <+: bad ++ rest
  begins : Begins bad ∨ bad.length = 1
  maximal : ∀ front, front <+: bad ++ rest → Begins front → front.length ≤ bad.length

/-- The bytes fall apart into characters, which are kept, and invalid stretches, each of which
becomes one replacement character. -/
inductive Decodes : Bytes → List Char → Prop
  | nil : Decodes [] []
  | char (c : Char) {rest : Bytes} {chars : List Char} (h : Decodes rest chars) :
      Decodes (String.utf8EncodeChar c ++ rest) (c :: chars)
  | invalid {bad rest : Bytes} {chars : List Char} (hbad : IsInvalid bad rest)
      (h : Decodes rest chars) : Decodes (bad ++ rest) (replacement :: chars)

/-- The bytes encode a text. -/
def IsValid (bytes : Bytes) : Prop :=
  ∃ text, bytes = encode text

theorem Begins.of_prefix {front bytes : Bytes} (h : Begins bytes) (hfront : front <+: bytes) :
    Begins front := by
  obtain ⟨c, hc⟩ := h
  exact ⟨c, hfront.trans hc⟩

/-- There is only one way to cut off an invalid stretch. -/
theorem IsInvalid.unique {bad bad' rest rest' : Bytes} (h : IsInvalid bad rest)
    (h' : IsInvalid bad' rest') (heq : bad ++ rest = bad' ++ rest') :
    bad = bad' ∧ rest = rest' := by
  have hle : ∀ {a a' r r' : Bytes}, IsInvalid a r → IsInvalid a' r' → a ++ r = a' ++ r' →
      a.length ≤ a'.length := by
    intro a a' r r' ha ha' heq
    rcases ha.begins with hbegins | hone
    · exact ha'.maximal a (heq ▸ List.prefix_append a r) hbegins
    · rw [hone]
      exact List.length_pos_iff.mpr ha'.ne_nil
  have hlength : bad.length = bad'.length := Nat.le_antisymm (hle h h' heq) (hle h' h heq.symm)
  exact List.append_inj heq hlength

/-! ## Sequences under way -/

/-- The sequence after six more bits. -/
def Pending.next (p : Pending) (bits : Nat) : Pending :=
  ⟨p.value * 64 + bits, p.missing - 1, 0x80, 0xBF⟩

/-- The byte may follow. -/
def Pending.Continues (p : Pending) (byte : UInt8) : Prop :=
  p.low ≤ byte.toNat ∧ byte.toNat ≤ p.high

/-- The bytes complete the sequence to the character. -/
def Completes : Pending → Bytes → Char → Prop
  | _, [], _ => False
  | p, byte :: rest, c => p.Continues byte ∧
      if p.missing = 1 then rest = [] ∧ c.toNat = p.value * 64 + (byte.toNat - 0x80)
      else Completes (p.next (byte.toNat - 0x80)) rest c

theorem not_completes_nil {p : Pending} {c : Char} : ¬ Completes p [] c :=
  id

section Cons

variable {v low high : Nat} {byte : UInt8} {rest : Bytes} {c : Char}

theorem completes_one :
    Completes ⟨v, 1, low, high⟩ (byte :: rest) c ↔
      (low ≤ byte.toNat ∧ byte.toNat ≤ high) ∧ rest = [] ∧
        c.toNat = v * 64 + (byte.toNat - 0x80) :=
  Iff.rfl

theorem completes_two :
    Completes ⟨v, 2, low, high⟩ (byte :: rest) c ↔
      (low ≤ byte.toNat ∧ byte.toNat ≤ high) ∧
        Completes ⟨v * 64 + (byte.toNat - 0x80), 1, 0x80, 0xBF⟩ rest c :=
  Iff.rfl

theorem completes_three :
    Completes ⟨v, 3, low, high⟩ (byte :: rest) c ↔
      (low ≤ byte.toNat ∧ byte.toNat ≤ high) ∧
        Completes ⟨v * 64 + (byte.toNat - 0x80), 2, 0x80, 0xBF⟩ rest c :=
  Iff.rfl

end Cons

/-! ## The bytes of a character -/

theorem toNat_lt (c : Char) : c.toNat < 0xD800 ∨ 0xDFFF < c.toNat ∧ c.toNat < 0x110000 :=
  c.valid

theorem exists_char {n : Nat} (h : n.isValidChar) : ∃ c : Char, c.toNat = n :=
  ⟨Char.ofNatAux n h, rfl⟩

/-- The bytes of a character as numbers. -/
theorem map_toNat_utf8EncodeChar (c : Char) :
    (String.utf8EncodeChar c).map UInt8.toNat =
      if c.toNat < 0x80 then [c.toNat]
      else if c.toNat < 0x800 then [c.toNat / 64 + 0xC0, c.toNat % 64 + 0x80]
      else if c.toNat < 0x10000 then
        [c.toNat / 4096 + 0xE0, c.toNat / 64 % 64 + 0x80, c.toNat % 64 + 0x80]
      else
        [c.toNat / 262144 + 0xF0, c.toNat / 4096 % 64 + 0x80, c.toNat / 64 % 64 + 0x80,
          c.toNat % 64 + 0x80] := by
  have hvalid := toNat_lt c
  have hval : c.val.toNat = c.toNat := rfl
  simp only [String.utf8EncodeChar, hval]
  split_ifs <;> simp <;> omega

theorem utf8EncodeChar_eq_iff (c : Char) (bytes : Bytes) :
    String.utf8EncodeChar c = bytes ↔
      (String.utf8EncodeChar c).map UInt8.toNat = bytes.map UInt8.toNat :=
  (List.map_injective_iff.mpr fun _ _ => UInt8.toNat_inj.mp).eq_iff.symm

/-- The three lengths of sequences. -/
theorem lead?_cases {byte : Nat} {p : Pending} (h : lead? byte = some p) :
    (∃ v, byte = v + 0xC0 ∧ 2 ≤ v ∧ v < 32 ∧ p = ⟨v, 1, 0x80, 0xBF⟩) ∨
      (∃ v, byte = v + 0xE0 ∧ v < 16 ∧
        p = ⟨v, 2, if v = 0 then 0xA0 else 0x80, if v = 13 then 0x9F else 0xBF⟩) ∨
      ∃ v, byte = v + 0xF0 ∧ v < 5 ∧
        p = ⟨v, 3, if v = 0 then 0x90 else 0x80, if v = 4 then 0x8F else 0xBF⟩ := by
  rw [lead?] at h
  by_cases hC2 : byte < 0xC2
  · rw [if_pos hC2] at h
    exact nomatch h
  rw [if_neg hC2] at h
  by_cases hE0 : byte < 0xE0
  · rw [if_pos hE0] at h
    exact .inl ⟨byte - 0xC0, by omega, by omega, by omega, (Option.some.inj h).symm⟩
  rw [if_neg hE0] at h
  by_cases hF0 : byte < 0xF0
  · rw [if_pos hF0] at h
    obtain ⟨v, rfl⟩ : ∃ v, byte = v + 0xE0 := ⟨byte - 0xE0, by omega⟩
    exact .inr (.inl ⟨v, rfl, by omega, by simpa [eq_comm] using h⟩)
  rw [if_neg hF0] at h
  by_cases hF5 : byte < 0xF5
  · rw [if_pos hF5] at h
    obtain ⟨v, rfl⟩ : ∃ v, byte = v + 0xF0 := ⟨byte - 0xF0, by omega⟩
    exact .inr (.inr ⟨v, rfl, by omega, by simpa [eq_comm] using h⟩)
  · rw [if_neg hF5] at h
    exact nomatch h

theorem lead?_isSome {byte : Nat} (h : 0xC2 ≤ byte) (h' : byte < 0xF5) :
    ∃ p, lead? byte = some p := by
  rw [lead?, if_neg (by omega)]
  split_ifs <;> exact ⟨_, rfl⟩

/-- A byte that begins a sequence is followed by what completes it. -/
theorem utf8EncodeChar_eq_cons_iff {byte : UInt8} {p : Pending} (h : lead? byte.toNat = some p)
    (rest : Bytes) (c : Char) :
    String.utf8EncodeChar c = byte :: rest ↔ Completes p rest c := by
  have hvalid := toNat_lt c
  rw [utf8EncodeChar_eq_iff, map_toNat_utf8EncodeChar, List.map_cons]
  rcases lead?_cases h with ⟨v, hbyte, hv, hv', rfl⟩ | ⟨v, hbyte, hv, rfl⟩ | ⟨v, hbyte, hv, rfl⟩ <;>
    clear h <;> rw [hbyte] <;> clear hbyte
  -- No character has more than four bytes, and what is left is arithmetic on six bits each.
  all_goals rcases rest with _ | ⟨b₁, _ | ⟨b₂, _ | ⟨b₃, _ | ⟨b₄, rest⟩⟩⟩⟩
  all_goals simp only [completes_one, completes_two, completes_three, not_completes_nil]
  all_goals split_ifs <;> simp <;> omega

/-- The first byte of a character stands alone or begins a sequence. -/
theorem first_of_utf8EncodeChar {c : Char} {byte : UInt8} {rest : Bytes}
    (h : String.utf8EncodeChar c = byte :: rest) :
    byte.toNat < 0x80 ∨ ∃ p, lead? byte.toNat = some p := by
  have hvalid := toNat_lt c
  have hbytes := (utf8EncodeChar_eq_iff _ _).mp h
  rw [map_toNat_utf8EncodeChar, List.map_cons] at hbytes
  have hrange : byte.toNat < 0x80 ∨ 0xC2 ≤ byte.toNat ∧ byte.toNat < 0xF5 := by
    split_ifs at hbytes
    all_goals
      rw [List.cons.injEq] at hbytes
      omega
  exact hrange.imp_right fun hlead => lead?_isSome hlead.1 hlead.2

/-- No character is the start of another. -/
theorem utf8EncodeChar_append_inj {c c' : Char} {more more' : Bytes}
    (h : String.utf8EncodeChar c ++ more = String.utf8EncodeChar c' ++ more') :
    c = c' ∧ more = more' := by
  have hdecode := congrArg (fun bytes => ByteArray.utf8DecodeChar? bytes.toByteArray 0) h
  simp only [List.toByteArray_append, ByteArray.utf8DecodeChar?_utf8EncodeChar_append] at hdecode
  obtain rfl := Option.some.inj hdecode
  exact ⟨rfl, List.append_cancel_left h⟩

/-! ## The range of the next byte is exact -/

/-- The numbers that the sequence can still come to lie from `first` up to `bound`. -/
def Pending.first (p : Pending) : Nat :=
  (p.value * 64 + (p.low - 0x80)) * 64 ^ (p.missing - 1)

@[inherit_doc Pending.first]
def Pending.bound (p : Pending) : Nat :=
  (p.value * 64 + (p.high - 0x80) + 1) * 64 ^ (p.missing - 1)

/-- Something may follow, and all numbers that the sequence can still come to are characters. -/
structure Pending.Sound (p : Pending) : Prop where
  missing : p.missing ≠ 0
  range : 0x80 ≤ p.low ∧ p.low ≤ p.high ∧ p.high ≤ 0xBF
  valid : ∀ n, p.first ≤ n → n < p.bound → n.isValidChar

theorem sound_of_lead? {byte : Nat} {p : Pending} (h : lead? byte = some p) : p.Sound := by
  rcases lead?_cases h with ⟨v, -, hv, hv', rfl⟩ | ⟨v, -, hv, rfl⟩ | ⟨v, -, hv, rfl⟩
  · refine ⟨by simp, by simp, fun n _ hbound => .inl ?_⟩
    simp only [Pending.bound, Nat.sub_self, Nat.pow_zero] at hbound
    omega
  · refine ⟨by simp, by dsimp only; split_ifs <;> omega, fun n hfirst hbound => ?_⟩
    simp only [Pending.first, Pending.bound, Nat.add_one_sub_one, Nat.pow_one] at hfirst hbound
    rw [Nat.isValidChar]
    split_ifs at hfirst hbound <;> omega
  · refine ⟨by simp, by dsimp only; split_ifs <;> omega, fun n hfirst hbound => .inr ?_⟩
    simp only [Pending.first, Pending.bound, Nat.add_one_sub_one] at hfirst hbound
    split_ifs at hfirst hbound <;> omega

section Next

variable {p : Pending} {k : Nat} (hk : p.missing = k + 2) (bits : Nat)
include hk

theorem first_next : (p.next bits).first = (p.value * 64 + bits) * 64 ^ (p.missing - 1) := by
  simp only [Pending.first, Pending.next, hk, Nat.reduceSub, Nat.add_one_sub_one]
  ring

theorem bound_next : (p.next bits).bound = (p.value * 64 + bits + 1) * 64 ^ (p.missing - 1) := by
  simp only [Pending.bound, Pending.next, hk, Nat.reduceSub, Nat.add_one_sub_one]
  ring

end Next

/-- What the sequence can come to after a byte in range, it could come to before. -/
theorem Pending.Sound.next {p : Pending} (h : p.Sound) {byte : UInt8} (hbyte : p.Continues byte)
    (hmissing : p.missing ≠ 1) : (p.next (byte.toNat - 0x80)).Sound := by
  obtain ⟨k, hk⟩ : ∃ k, p.missing = k + 2 := ⟨p.missing - 2, by have := h.missing; omega⟩
  have hmissing' : (p.next (byte.toNat - 0x80)).missing = k + 1 := by rw [Pending.next, hk]; rfl
  refine ⟨by omega, by simp [Pending.next], fun n hfirst hbound => h.valid n ?_ ?_⟩
  · refine le_trans ?_ hfirst
    rw [first_next hk, Pending.first]
    exact Nat.mul_le_mul_right _ (by have := hbyte.1; omega)
  · refine lt_of_lt_of_le hbound ?_
    rw [bound_next hk, Pending.bound]
    exact Nat.mul_le_mul_right _ (by have := hbyte.2; omega)

/-- The number of a complete sequence is a character. -/
theorem Pending.Sound.isValidChar {p : Pending} (h : p.Sound) {byte : UInt8}
    (hbyte : p.Continues byte) (hmissing : p.missing = 1) :
    (p.value * 64 + (byte.toNat - 0x80)).isValidChar := by
  obtain ⟨hlow, hhigh⟩ := hbyte
  apply h.valid
  · rw [first, hmissing, Nat.sub_self, Nat.pow_zero]
    omega
  · rw [bound, hmissing, Nat.sub_self, Nat.pow_zero]
    omega

/-- A byte in range completes the sequence, or another one goes on with it. -/
theorem Pending.Sound.exists_completes {p : Pending} (h : p.Sound) :
    ∃ tail c, Completes p tail c := by
  obtain ⟨hlow, hrange, hhigh⟩ := h.range
  let byte := UInt8.ofNat p.low
  have hbyte : byte.toNat = p.low := by simp [byte]; omega
  have hcontinues : p.Continues byte := ⟨hbyte.ge, hbyte.trans_le hrange⟩
  by_cases hmissing : p.missing = 1
  · obtain ⟨c, hc⟩ := exists_char (h.isValidChar hcontinues hmissing)
    exact ⟨[byte], c, hcontinues, by rw [if_pos hmissing]; exact ⟨rfl, hc⟩⟩
  · obtain ⟨tail, c, htail⟩ := (h.next hcontinues hmissing).exists_completes
    exact ⟨byte :: tail, c, hcontinues, by rwa [if_neg hmissing]⟩
termination_by p.missing
decreasing_by
  have := h.missing
  rw [Pending.next]
  dsimp only
  omega

/-- The bytes before the sequence under way: exactly what completes the sequence makes them a
character. -/
structure Begun (front : Bytes) (p : Pending) : Prop where
  ne_nil : front ≠ []
  sound : p.Sound
  completes : ∀ tail c, String.utf8EncodeChar c = front ++ tail ↔ Completes p tail c

theorem Begun.lead {byte : UInt8} {p : Pending} (h : lead? byte.toNat = some p) :
    Begun [byte] p :=
  ⟨List.cons_ne_nil _ _, sound_of_lead? h, utf8EncodeChar_eq_cons_iff h⟩

section Begun

variable {front : Bytes} {p : Pending} (h : Begun front p)
include h

theorem Begun.next {byte : UInt8} (hbyte : p.Continues byte) (hmissing : p.missing ≠ 1) :
    Begun (front ++ [byte]) (p.next (byte.toNat - 0x80)) := by
  refine ⟨by simp, h.sound.next hbyte hmissing, fun tail c => ?_⟩
  rw [List.append_assoc, List.singleton_append, h.completes, Completes, if_neg hmissing]
  exact and_iff_right hbyte

/-- The last byte in range gives a character. -/
theorem Begun.last {byte : UInt8} (hbyte : p.Continues byte) (hmissing : p.missing = 1) :
    ∃ c, String.utf8EncodeChar c = front ++ [byte] ∧
      Char.ofNat (p.value * 64 + (byte.toNat - 0x80)) = c := by
  obtain ⟨c, hc⟩ := exists_char (h.sound.isValidChar hbyte hmissing)
  refine ⟨c, (h.completes [byte] c).mpr ⟨hbyte, ?_⟩, by rw [← hc, Char.ofNat_toNat]⟩
  rw [if_pos hmissing]
  exact ⟨rfl, hc⟩

theorem Begun.begins : Begins front := by
  obtain ⟨tail, c, htail⟩ := h.sound.exists_completes
  exact ⟨c, tail, ((h.completes tail c).mpr htail).symm⟩

/-- A byte out of range ends all that could begin so. -/
theorem Begun.continues {byte : UInt8} (hbegins : Begins (front ++ [byte])) : p.Continues byte := by
  obtain ⟨c, tail, hc⟩ := hbegins
  rw [List.append_assoc, List.singleton_append] at hc
  exact ((h.completes _ c).mp hc.symm).1

/-- What begins a character does not contain one. -/
theorem Begun.no_char (c : Char) : ¬ String.utf8EncodeChar c <+: front := by
  rintro ⟨more, hfront⟩
  obtain ⟨tail, c', htail⟩ := h.sound.exists_completes
  have hc' := (h.completes tail c').mpr htail
  rw [← hfront, List.append_assoc] at hc'
  obtain ⟨-, hmore⟩ := utf8EncodeChar_append_inj ((List.append_nil _).trans hc')
  rw [(List.append_eq_nil_iff.mp hmore.symm).2] at htail
  exact not_completes_nil htail

/-- A sequence that does not go on is an invalid stretch. -/
theorem Begun.isInvalid {rest : Bytes} (hstop : ∀ byte ∈ rest.head?, ¬ p.Continues byte) :
    IsInvalid front rest := by
  have hwithin : ∀ start, start <+: front ++ rest → Begins start → start <+: front := by
    intro start hstart hbegins
    rcases List.prefix_or_prefix_of_prefix hstart (List.prefix_append front rest) with hle | hge
    · exact hle
    · obtain ⟨more, rfl⟩ := hge
      cases more with
      | nil => rw [List.append_nil]
      | cons byte more =>
          obtain ⟨after, hafter⟩ := hstart
          rw [List.append_assoc, List.append_cancel_left_eq] at hafter
          have hhead : byte ∈ rest.head? := by rw [← hafter]; rfl
          exact absurd (h.continues (hbegins.of_prefix ⟨more, by simp⟩)) (hstop byte hhead)
  refine ⟨h.ne_nil, fun c hc => ?_, .inl h.begins, fun start hstart hbegins => ?_⟩
  · exact h.no_char c (hwithin _ hc ⟨c, List.prefix_rfl⟩)
  · exact (hwithin start hstart hbegins).length_le

end Begun

/-! ## What the decoder reads -/

/-- The bytes are one character and the rest. -/
def ReadsChar (bytes : Bytes) (chars : List Char) : Prop :=
  ∃ c rest, bytes = String.utf8EncodeChar c ++ rest ∧ chars = c :: decode rest

/-- The bytes are one invalid stretch and the rest. -/
def ReadsInvalid (bytes : Bytes) (chars : List Char) : Prop :=
  ∃ bad rest, bytes = bad ++ rest ∧ IsInvalid bad rest ∧ chars = replacement :: decode rest

section Steps

variable {p : Pending} {byte : UInt8}

theorem decodeFrom_some_cons (bytes : Bytes) :
    decodeFrom (some p) (byte :: bytes) =
      (resume p byte.toNat).1 ++ decodeFrom (resume p byte.toNat).2 bytes :=
  rfl

theorem decode_cons_eq (bytes : Bytes) :
    decode (byte :: bytes) =
      (opening byte.toNat).1 ++ decodeFrom (opening byte.toNat).2 bytes :=
  rfl

theorem decodeFrom_last (hbyte : p.Continues byte) (hmissing : p.missing = 1) (bytes : Bytes) :
    decodeFrom (some p) (byte :: bytes) =
      Char.ofNat (p.value * 64 + (byte.toNat - 0x80)) :: decode bytes := by
  rw [Pending.Continues] at hbyte
  rw [decodeFrom_some_cons, resume, if_pos hbyte, if_pos hmissing]
  rfl

theorem decodeFrom_continue (hbyte : p.Continues byte) (hmissing : p.missing ≠ 1)
    (bytes : Bytes) :
    decodeFrom (some p) (byte :: bytes) =
      decodeFrom (some (p.next (byte.toNat - 0x80))) bytes := by
  rw [Pending.Continues] at hbyte
  rw [decodeFrom_some_cons, resume, if_pos hbyte, if_neg hmissing]
  rfl

theorem decodeFrom_stop (hbyte : ¬ p.Continues byte) (bytes : Bytes) :
    decodeFrom (some p) (byte :: bytes) = replacement :: decode (byte :: bytes) := by
  rw [Pending.Continues] at hbyte
  rw [decodeFrom_some_cons, resume, if_neg hbyte]
  rfl

theorem decode_cons_of_lt (h : byte.toNat < 0x80) (bytes : Bytes) :
    decode (byte :: bytes) = Char.ofNat byte.toNat :: decode bytes := by
  rw [decode_cons_eq, opening, if_pos h]
  rfl

theorem decode_cons_of_lead? (h : ¬ byte.toNat < 0x80) (hp : lead? byte.toNat = some p)
    (bytes : Bytes) : decode (byte :: bytes) = decodeFrom (some p) bytes := by
  rw [decode_cons_eq, opening, if_neg h, hp]
  rfl

theorem decode_cons_of_lead?_eq_none (h : ¬ byte.toNat < 0x80) (hnone : lead? byte.toNat = none)
    (bytes : Bytes) : decode (byte :: bytes) = replacement :: decode bytes := by
  rw [decode_cons_eq, opening, if_neg h, hnone]
  rfl

end Steps

/-- Within a sequence the decoder gives the character that it completes, or ends it as an invalid
stretch. -/
theorem decodeFrom_of_begun {front : Bytes} {p : Pending} (h : Begun front p) (bytes : Bytes) :
    ReadsChar (front ++ bytes) (decodeFrom (some p) bytes) ∨
      ReadsInvalid (front ++ bytes) (decodeFrom (some p) bytes) := by
  induction bytes generalizing front p with
  | nil => exact .inr ⟨front, [], rfl, h.isInvalid (by simp), rfl⟩
  | cons byte bytes ih =>
      by_cases hbyte : p.Continues byte
      · have hassoc : front ++ byte :: bytes = (front ++ [byte]) ++ bytes := by simp
        by_cases hmissing : p.missing = 1
        · obtain ⟨c, hc, hvalue⟩ := h.last hbyte hmissing
          rw [decodeFrom_last hbyte hmissing, hassoc]
          exact .inl ⟨c, bytes, by rw [hc], by rw [hvalue]⟩
        · rw [decodeFrom_continue hbyte hmissing, hassoc]
          exact ih (h.next hbyte hmissing)
      · rw [decodeFrom_stop hbyte]
        exact .inr ⟨front, byte :: bytes, rfl, h.isInvalid (by simpa using hbyte), rfl⟩

/-- A byte that begins nothing is an invalid stretch of its own. -/
theorem isInvalid_singleton {byte : UInt8} (h : ¬ byte.toNat < 0x80)
    (hnone : lead? byte.toNat = none) (rest : Bytes) : IsInvalid [byte] rest := by
  have hfirst : ∀ c more, String.utf8EncodeChar c ≠ byte :: more := by
    intro c more hc
    rcases first_of_utf8EncodeChar hc with hlt | ⟨p, hp⟩
    · exact h hlt
    · exact absurd (hnone.symm.trans hp) (by simp)
  refine ⟨List.cons_ne_nil _ _, fun c hc => ?_, .inr rfl, fun start hstart hbegins => ?_⟩
  · rcases List.prefix_cons_iff.mp hc with hnil | ⟨more, hmore, -⟩
    · exact String.utf8EncodeChar_ne_nil hnil
    · exact hfirst c more hmore
  · rcases List.prefix_cons_iff.mp hstart with rfl | ⟨more, rfl, -⟩
    · exact Nat.zero_le _
    · obtain ⟨c, after, hc⟩ := hbegins
      exact absurd hc.symm (hfirst c _)

/-- The front of the bytes is a character or an invalid stretch, and the decoder cuts it off. -/
theorem decode_cons (byte : UInt8) (bytes : Bytes) :
    ReadsChar (byte :: bytes) (decode (byte :: bytes)) ∨
      ReadsInvalid (byte :: bytes) (decode (byte :: bytes)) := by
  by_cases hlt : byte.toNat < 0x80
  · obtain ⟨c, hc⟩ := exists_char (.inl (hlt.trans (by decide)))
    rw [decode_cons_of_lt hlt, ← hc, Char.ofNat_toNat]
    refine .inl ⟨c, bytes, ?_, rfl⟩
    rw [(utf8EncodeChar_eq_iff c [byte]).mpr]
    · rfl
    · rw [map_toNat_utf8EncodeChar, hc, if_pos hlt]
      rfl
  · cases hlead : lead? byte.toNat with
    | some p =>
        rw [decode_cons_of_lead? hlt hlead]
        exact decodeFrom_of_begun (.lead hlead) bytes
    | none =>
        rw [decode_cons_of_lead?_eq_none hlt hlead]
        exact .inr ⟨[byte], bytes, rfl, isInvalid_singleton hlt hlead bytes, rfl⟩

/-! ## The decoder and the meaning of bytes -/

theorem decodes_decode (bytes : Bytes) : Decodes bytes (decode bytes) := by
  induction hn : bytes.length using Nat.strong_induction_on generalizing bytes with
  | _ n ih =>
      cases bytes with
      | nil => exact .nil
      | cons byte bytes =>
          rcases decode_cons byte bytes with ⟨c, rest, hbytes, hchars⟩ |
            ⟨bad, rest, hbytes, hbad, hchars⟩
          · rw [hchars, hbytes]
            have hpos := List.length_pos_iff.mpr (String.utf8EncodeChar_ne_nil (c := c))
            refine .char c (ih rest.length ?_ rest rfl)
            rw [← hn, hbytes, List.length_append]
            omega
          · rw [hchars, hbytes]
            have hpos := List.length_pos_iff.mpr hbad.ne_nil
            refine .invalid hbad (ih rest.length ?_ rest rfl)
            rw [← hn, hbytes, List.length_append]
            omega

theorem decode_utf8EncodeChar_append (c : Char) (rest : Bytes) :
    decode (String.utf8EncodeChar c ++ rest) = c :: decode rest := by
  obtain ⟨byte, tail, hc⟩ := List.exists_cons_of_ne_nil (String.utf8EncodeChar_ne_nil (c := c))
  have happend : String.utf8EncodeChar c ++ rest = byte :: (tail ++ rest) := by rw [hc]; rfl
  rcases decode_cons byte (tail ++ rest) with ⟨c', rest', hbytes, hchars⟩ |
    ⟨bad, rest', hbytes, hbad, -⟩ <;> rw [← happend] at hbytes
  · obtain ⟨rfl, rfl⟩ := utf8EncodeChar_append_inj hbytes
    rw [happend, hchars]
  · exact absurd ⟨rest, hbytes⟩ (hbad.no_char c)

theorem decode_append_of_isInvalid {bad rest : Bytes} (h : IsInvalid bad rest) :
    decode (bad ++ rest) = replacement :: decode rest := by
  obtain ⟨byte, tail, rfl⟩ := List.exists_cons_of_ne_nil h.ne_nil
  rcases decode_cons byte (tail ++ rest) with ⟨c, rest', hbytes, -⟩ |
    ⟨bad', rest', hbytes, hbad, hchars⟩
  · exact absurd ⟨rest', hbytes.symm⟩ (h.no_char c)
  · obtain ⟨-, rfl⟩ := h.unique hbad hbytes
    exact hchars

/-- The meaning of bytes is what the decoder gives, and nothing else. -/
theorem decodes_iff {bytes : Bytes} {chars : List Char} :
    Decodes bytes chars ↔ chars = decode bytes := by
  constructor
  · intro h
    induction h with
    | nil => rfl
    | char c _ ih => rw [decode_utf8EncodeChar_append, ih]
    | invalid hbad _ ih => rw [decode_append_of_isInvalid hbad, ih]
  · rintro rfl
    exact decodes_decode bytes

/-- Two characters and one of four bytes, among them a start that is cut short, two bytes that begin
nothing, a surrogate, and at the end another start. -/
def garbled : Bytes :=
  [0x61, 0xE2, 0x82, 0x41, 0xC0, 0xAF, 0xF0, 0x9F, 0x98, 0x80, 0xED, 0xA0, 0x80, 0xF0, 0x9F]

example : decode garbled = ['a', replacement, 'A', replacement, replacement, '😀', replacement,
    replacement, replacement, replacement] := by
  decide

/-! ## Text survives -/

theorem decode_encode_append (text : List Char) (bytes : Bytes) :
    decode (encode text ++ bytes) = text ++ decode bytes := by
  induction text with
  | nil => rfl
  | cons c text ih =>
      rw [encode, List.flatMap_cons, List.append_assoc, decode_utf8EncodeChar_append]
      exact congrArg (c :: ·) ih

theorem decode_encode (text : List Char) : decode (encode text) = text := by
  rw [← List.append_nil (encode text), decode_encode_append]
  exact List.append_nil text

theorem toString_ofString (text : String) : toString (ofString text) = text := by
  rw [toString, ofString, decode_encode, String.ofList_toList]

/-- What is valid does not tell in what comes after it. -/
theorem toString_append {front bytes : Bytes} (h : IsValid front) :
    toString (front ++ bytes) = toString front ++ toString bytes := by
  obtain ⟨text, rfl⟩ := h
  simp only [toString, decode_encode_append, decode_encode, String.ofList_append]

end SmtScript.Utf8
