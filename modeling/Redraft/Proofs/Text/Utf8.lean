import Mathlib.Tactic.IntervalCases
import Redraft.Proofs.Failure
import Redraft.Proofs.Text.CodePoint
import Redraft.Text.Utf8

/-!
Decoding what was encoded gives back the text. The bytes of a character take the decoder from one
character to the next, with one lemma for each length.
-/
namespace Redraft

namespace Utf8

variable {b : UInt8} {p : Pending} {c : CodePoint} {i o : Nat} {rest : Bytes}

theorem ofBits_toNat (c : Char) : ofBits c.toNat = .scalar c := by
  rw [ofBits, CodePoint.ofNat?_toNat, Option.getD_some]

theorem decodeFrom_char (h : begin b = .char c) :
    decodeFrom none i o none (b :: rest) = (c :: ·) <$> decodeFrom none (i + 1) o none rest := by
  simp [decodeFrom, h]

theorem decodeFrom_more (h : begin b = .more p) :
    decodeFrom none i o none (b :: rest) = decodeFrom none (i + 1) o (some p) rest := by
  simp [decodeFrom, h]

theorem decodeFrom_next_char (h : p.next? b = some (.char c)) :
    decodeFrom none i o (some p) (b :: rest) = (c :: ·) <$> decodeFrom none (i + 1) o none rest := by
  simp [decodeFrom, h]

theorem decodeFrom_next_more {q : Pending} (h : p.next? b = some (.more q)) :
    decodeFrom none i o (some p) (b :: rest) = decodeFrom none (i + 1) o (some q) rest := by
  simp [decodeFrom, h]

theorem toNat_ofNat_add {x k : Nat} (h : x + k < 256) : (UInt8.ofNat (x + k)).toNat = x + k := by
  rw [UInt8.toNat_ofNat']
  omega

theorem next?_ofNat {x : Nat} (h : x < 64) (hlow : p.low.toNat ≤ x + 0x80)
    (hhigh : x + 0x80 ≤ p.high.toNat) :
    p.next? (UInt8.ofNat (x + 0x80)) =
      if p.need ≤ 1 then some (.char (ofBits (p.bits * 64 + x)))
      else some (.more ⟨p.lead, p.need - 1, 0x80, 0xBF, p.bits * 64 + x, p.taken + 1⟩) := by
  have hb := toNat_ofNat_add (show x + 0x80 < 256 by omega)
  have hin : p.low ≤ UInt8.ofNat (x + 0x80) ∧ UInt8.ofNat (x + 0x80) ≤ p.high := by
    rw [UInt8.le_iff_toNat_le, UInt8.le_iff_toNat_le, hb]
    exact ⟨hlow, hhigh⟩
  rw [Pending.next?, if_pos hin, hb, Nat.add_sub_cancel]

theorem next?_inner {x : Nat} (lead : UInt8) (need : Nat) {low high : UInt8} (bits taken : Nat)
    (h : x < 64) (hlow : low.toNat ≤ x + 0x80) (hhigh : x + 0x80 ≤ high.toNat) :
    Pending.next? ⟨lead, need + 2, low, high, bits, taken⟩ (UInt8.ofNat (x + 0x80)) =
      some (.more ⟨lead, need + 1, 0x80, 0xBF, bits * 64 + x, taken + 1⟩) := by
  rw [next?_ofNat h hlow hhigh, if_neg (show ¬need + 2 ≤ 1 by omega)]
  rfl

theorem tail_bounds {x : Nat} (h : x < 64) :
    (0x80 : UInt8).toNat ≤ x + 0x80 ∧ x + 0x80 ≤ (0xBF : UInt8).toNat := by
  simp only [UInt8.reduceToNat]
  omega

theorem next?_last {x : Nat} (lead : UInt8) (bits taken : Nat) (h : x < 64) :
    Pending.next? ⟨lead, 1, 0x80, 0xBF, bits, taken⟩ (UInt8.ofNat (x + 0x80)) =
      some (.char (ofBits (bits * 64 + x))) := by
  rw [next?_ofNat h (tail_bounds h).1 (tail_bounds h).2, if_pos (Nat.le_refl 1)]

theorem begin_one {v : Nat} (h : v < 128) : begin (UInt8.ofNat v) = .char (ofBits v) := by
  have hb := toNat_ofNat_add (show v + 0 < 256 by omega)
  rw [Nat.add_zero] at hb
  rw [begin, if_pos (by rw [UInt8.lt_iff_toNat_lt, hb]; exact h), hb]

theorem begin_two {a : Nat} (h2 : 2 ≤ a) (h : a < 32) :
    begin (UInt8.ofNat (a + 0xC0)) = .more ⟨UInt8.ofNat (a + 0xC0), 1, 0x80, 0xBF, a, 1⟩ := by
  interval_cases a <;> rfl

theorem begin_three {a : Nat} (h : a < 16) :
    begin (UInt8.ofNat (a + 0xE0)) = .more ⟨UInt8.ofNat (a + 0xE0), 2, if a = 0 then 0xA0 else 0x80,
      if a = 13 then 0x9F else 0xBF, a, 1⟩ := by
  interval_cases a <;> rfl

theorem begin_four {a : Nat} (h : a < 5) :
    begin (UInt8.ofNat (a + 0xF0)) = .more ⟨UInt8.ofNat (a + 0xF0), 3, if a = 0 then 0x90 else 0x80,
      if a = 4 then 0x8F else 0xBF, a, 1⟩ := by
  interval_cases a <;> rfl

theorem decodeFrom_two {v : Nat} (hlow : 0x80 ≤ v) (hhigh : v ≤ 0x7FF) (i o : Nat) (rest : Bytes) :
    decodeFrom none i o none
        (UInt8.ofNat (v / 64 % 32 + 0xC0) :: UInt8.ofNat (v % 64 + 0x80) :: rest) =
      (ofBits v :: ·) <$> decodeFrom none (i + 1 + 1) o none rest := by
  have hv : v / 64 % 32 * 64 + v % 64 = v := by omega
  rw [decodeFrom_more (begin_two (by omega) (Nat.mod_lt _ (by decide))),
    decodeFrom_next_char (next?_last _ _ _ (Nat.mod_lt _ (by decide))), hv]

/-- The second byte has a narrower range behind the first and the last but two of the leads, so that
nothing that two bytes can hold and no surrogate is spelled with three. -/
theorem decodeFrom_three {v : Nat} (hlow : 0x800 ≤ v) (hhigh : v ≤ 0xFFFF)
    (hscalar : v < 0xD800 ∨ 0xDFFF < v) (i o : Nat) (rest : Bytes) :
    decodeFrom none i o none (UInt8.ofNat (v / 4096 % 16 + 0xE0) ::
        UInt8.ofNat (v / 64 % 64 + 0x80) :: UInt8.ofNat (v % 64 + 0x80) :: rest) =
      (ofBits v :: ·) <$> decodeFrom none (i + 1 + 1 + 1) o none rest := by
  have hv : (v / 4096 % 16 * 64 + v / 64 % 64) * 64 + v % 64 = v := by omega
  have hfrom : (if v / 4096 % 16 = 0 then (0xA0 : UInt8) else 0x80).toNat ≤ v / 64 % 64 + 0x80 := by
    split_ifs <;> simp only [UInt8.reduceToNat] <;> omega
  have hto : v / 64 % 64 + 0x80 ≤ (if v / 4096 % 16 = 13 then (0x9F : UInt8) else 0xBF).toNat := by
    split_ifs <;> simp only [UInt8.reduceToNat] <;> omega
  rw [decodeFrom_more (begin_three (Nat.mod_lt _ (by decide))),
    decodeFrom_next_more (next?_inner _ 0 _ _ (Nat.mod_lt _ (by decide)) hfrom hto),
    decodeFrom_next_char (next?_last _ _ _ (Nat.mod_lt _ (by decide))), hv]

theorem decodeFrom_four {v : Nat} (hlow : 0x10000 ≤ v) (hhigh : v < 0x110000) (i o : Nat)
    (rest : Bytes) :
    decodeFrom none i o none (UInt8.ofNat (v / 262144 % 8 + 0xF0) ::
        UInt8.ofNat (v / 4096 % 64 + 0x80) :: UInt8.ofNat (v / 64 % 64 + 0x80) ::
        UInt8.ofNat (v % 64 + 0x80) :: rest) =
      (ofBits v :: ·) <$> decodeFrom none (i + 1 + 1 + 1 + 1) o none rest := by
  have hv : ((v / 262144 % 8 * 64 + v / 4096 % 64) * 64 + v / 64 % 64) * 64 + v % 64 = v := by
    omega
  have hfrom : (if v / 262144 % 8 = 0 then (0x90 : UInt8) else 0x80).toNat ≤ v / 4096 % 64 + 0x80 := by
    split_ifs <;> simp only [UInt8.reduceToNat] <;> omega
  have hto : v / 4096 % 64 + 0x80 ≤ (if v / 262144 % 8 = 4 then (0x8F : UInt8) else 0xBF).toNat := by
    split_ifs <;> simp only [UInt8.reduceToNat] <;> omega
  have htail : v / 64 % 64 < 64 := Nat.mod_lt _ (by decide)
  rw [decodeFrom_more (begin_four (by omega)),
    decodeFrom_next_more (next?_inner _ 1 _ _ (Nat.mod_lt _ (by decide)) hfrom hto),
    decodeFrom_next_more (next?_inner _ 0 _ _ htail (tail_bounds htail).1 (tail_bounds htail).2),
    decodeFrom_next_char (next?_last _ _ _ (Nat.mod_lt _ (by decide))), hv]

/-- The bytes of a character decode to it, whatever follows. -/
theorem decodeFrom_encodeChar (c : Char) (i o : Nat) (rest : Bytes) :
    ∃ j, decodeFrom none i o none (String.utf8EncodeChar c ++ rest) =
      (CodePoint.scalar c :: ·) <$> decodeFrom none j o none rest := by
  have hvalid : c.toNat < 0xD800 ∨ 0xDFFF < c.toNat ∧ c.toNat < 0x110000 := c.valid
  rw [← ofBits_toNat c]
  have hc : c.val.toNat = c.toNat := rfl
  unfold String.utf8EncodeChar
  simp only [hc]
  generalize c.toNat = v at hvalid
  split_ifs with h1 h2 h3
  · exact ⟨_, decodeFrom_char (begin_one (by omega))⟩
  · exact ⟨_, decodeFrom_two (by omega) h2 i o rest⟩
  · exact ⟨_, decodeFrom_three (by omega) h3 (by omega) i o rest⟩
  · exact ⟨_, decodeFrom_four (by omega) (by omega) i o rest⟩

theorem decodeFrom_encodeWith {t : Text} (h : ∀ c ∈ t, isSurrogate c = false) (i o : Nat) :
    decodeFrom none i o none (encodeWith [] t) = .ok t := by
  induction t generalizing i with
  | nil => rfl
  | cons c t ih =>
    cases c with
    | surrogate k => exact absurd (h _ List.mem_cons_self) (by simp [isSurrogate])
    | scalar c =>
      obtain ⟨j, hj⟩ := decodeFrom_encodeChar c i o (encodeWith [] t)
      rw [encodeWith, hj, ih (fun d hd => h d (List.mem_cons_of_mem _ hd)) j]
      rfl

theorem unencodable?_eq_none {t : Text} {i : Nat} :
    unencodable? i t = none ↔ ∀ c ∈ t, isSurrogate c = false := by
  induction t generalizing i with
  | nil => simp [unencodable?]
  | cons c t ih => cases c <;> simp [unencodable?, isSurrogate, ih]

theorem encode_eq_ok {t : Text} {bytes : Bytes} :
    encode t = .ok bytes ↔ (∀ c ∈ t, isSurrogate c = false) ∧ bytes = encodeWith [] t := by
  unfold encode
  cases h : unencodable? 0 t with
  | none =>
    rw [← unencodable?_eq_none (i := 0), and_iff_right h, Except.ok.injEq, eq_comm]
  | some fault =>
    rw [← unencodable?_eq_none (i := 0), h]
    simp

/-- What was encoded decodes to the same text. -/
theorem decode_encode {t : Text} {bytes : Bytes} (h : encode t = .ok bytes) :
    decode bytes = .ok t := by
  obtain ⟨hall, rfl⟩ := encode_eq_ok.1 h
  exact decodeFrom_encodeWith hall 0 0

theorem encodeWith_append (substitute : Bytes) (s t : Text) :
    encodeWith substitute (s ++ t) = encodeWith substitute s ++ encodeWith substitute t := by
  induction s with
  | nil => rfl
  | cons c s ih => cases c <;> simp [encodeWith, ih]

def Fault.unplaced (x : Fault) : Fault := { x with position := 0 }

theorem decodeFrom_unplaced (piece piece' : Option Nat) (i o i' o' : Nat) (pending : Option Pending)
    (bytes : Bytes) : (decodeFrom piece i o pending bytes).mapError Fault.unplaced =
      (decodeFrom piece' i' o' pending bytes).mapError Fault.unplaced := by
  induction bytes generalizing i o i' o' pending with
  | nil => cases pending <;> rfl
  | cons b rest ih =>
    cases pending with
    | none =>
      simp only [decodeFrom]
      cases begin b with
      | char c => simpa only [bind_pure_comp, mapError_map] using congrArg _ (ih ..)
      | more p => exact ih ..
      | bad => rfl
    | some p =>
      simp only [decodeFrom]
      cases p.next? b with
      | none => rfl
      | some next =>
        cases next with
        | char c => simpa only [bind_pure_comp, mapError_map] using congrArg _ (ih ..)
        | more q => exact ih ..
        | bad => rfl

variable (piece : Nat) {bytes : Bytes}

theorem decodePieces_unplaced (bytes : Bytes) :
    (decodePieces piece bytes).mapError Fault.unplaced = (decode bytes).mapError Fault.unplaced :=
  decodeFrom_unplaced (some piece) none 0 0 0 0 none bytes

theorem decodePieces_eq_ok {t : Text} : decodePieces piece bytes = .ok t ↔ decode bytes = .ok t := by
  rw [← mapError_eq_ok (k := Fault.unplaced), decodePieces_unplaced, mapError_eq_ok]

theorem exists_decodePieces_eq_error {x : Fault} (h : decode bytes = .error x) :
    ∃ y, decodePieces piece bytes = .error y ∧ y.unplaced = x.unplaced := by
  have hsame := decodePieces_unplaced piece bytes
  rw [h] at hsame
  exact mapError_eq_error.1 hsame

end Utf8

end Redraft
