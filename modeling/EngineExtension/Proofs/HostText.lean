import EngineExtension.LoadError
import Mathlib.Data.String.Basic

/-!
# What a host's text can hold

A text from a host ends at the first NUL, so no byte of it is zero. Reading it cannot make a NUL
either: a character that is read stands in the bytes as it would be written, and a broken piece
becomes a replacement character. So whatever a host says about itself can be told back to it in
full.

* `Text.eq_encode_of_decodeChar` — a character that is read stands in the bytes as it is written;
* `Text.nul_notMem_decodeLossy` — bytes without a zero give a text without a NUL;
* `HostText.ofString_bytes` — a text without a NUL loses nothing on its way to a host;
* `LoadError.nul_notMem_report` — the reports of failures hold no NUL of their own.
-/

namespace EngineExtension

namespace Text

/-! ## One character -/

/-- With no byte to follow, the bits so far are the code point and all bytes remain. -/
theorem follow_zero_eq_some {low high : UInt8} {bits n : Nat} {bs rest : List UInt8}
    (h : follow 0 low high bits bs = (some n, rest)) : bits = n ∧ bs = rest := by
  obtain ⟨hn, rfl⟩ := Prod.mk.inj h
  exact ⟨Option.some.inj hn, rfl⟩

/-- Inversion for bytes that complete a code point: the first of them fits. -/
theorem follow_succ_eq_some {more : Nat} {low high : UInt8} {bits n : Nat} {bs rest : List UInt8}
    (h : follow (more + 1) low high bits bs = (some n, rest)) :
    ∃ b after, bs = b :: after ∧ low.toNat ≤ b.toNat ∧ b.toNat ≤ high.toNat ∧
      follow more 0x80 0xBF (bits * 64 + b.toNat % 64) after = (some n, rest) := by
  rcases bs with _ | ⟨b, after⟩
  · cases h
  · rw [follow] at h
    split at h
    · next hb => exact ⟨b, after, rfl, hb.1, hb.2, h⟩
    · cases h

/-- A valid code point is the code point of its character. -/
theorem toNat_val_ofNat {n : Nat} (h : n.isValidChar) : (Char.ofNat n).val.toNat = n := by
  rw [Char.ofNat, dif_pos h]
  rfl

/-- A byte is the one with its value, in the form in which the writer of characters gives it. -/
theorem ofNat_eq_of_toNat_eq {b : UInt8} {n : Nat} (h : b.toNat = n) : UInt8.ofNat n = b := by
  rw [← h, UInt8.ofNat_toNat]

variable {a b c d : UInt8}

/-- A byte below 0x80 is the writing of the character with that code point. -/
theorem utf8EncodeChar_one (ha : a.toNat < 0x80) :
    String.utf8EncodeChar (Char.ofNat a.toNat) = [a] := by
  have hv := toNat_val_ofNat (n := a.toNat) (by omega)
  simp only [String.utf8EncodeChar, hv]
  rw [if_pos (by omega), UInt8.ofNat_toNat]

/-- Two bytes that fit together are the writing of the character that they are read as. -/
theorem utf8EncodeChar_two (ha : 0xC2 ≤ a.toNat) (ha' : a.toNat < 0xE0) (hb : 0x80 ≤ b.toNat)
    (hb' : b.toNat ≤ 0xBF) :
    String.utf8EncodeChar (Char.ofNat (a.toNat % 32 * 64 + b.toNat % 64)) = [a, b] := by
  have hv := toNat_val_ofNat (n := a.toNat % 32 * 64 + b.toNat % 64) (by omega)
  simp only [String.utf8EncodeChar, hv]
  rw [if_neg (by omega), if_pos (by omega), ofNat_eq_of_toNat_eq (b := a) (by omega),
    ofNat_eq_of_toNat_eq (b := b) (by omega)]

/-- Three bytes likewise. That they are no overlong writing and no half of a pair narrows the
second. -/
theorem utf8EncodeChar_three (ha : 0xE0 ≤ a.toNat) (ha' : a.toNat < 0xF0) (hb : 0x80 ≤ b.toNat)
    (hb' : b.toNat ≤ 0xBF) (hc : 0x80 ≤ c.toNat) (hc' : c.toNat ≤ 0xBF)
    (hlong : a.toNat = 0xE0 → 0xA0 ≤ b.toNat) (hpair : a.toNat = 0xED → b.toNat ≤ 0x9F) :
    String.utf8EncodeChar
      (Char.ofNat ((a.toNat % 16 * 64 + b.toNat % 64) * 64 + c.toNat % 64)) = [a, b, c] := by
  have hv := toNat_val_ofNat (n := (a.toNat % 16 * 64 + b.toNat % 64) * 64 + c.toNat % 64)
    (by omega)
  simp only [String.utf8EncodeChar, hv]
  rw [if_neg (by omega), if_neg (by omega), if_pos (by omega),
    ofNat_eq_of_toNat_eq (b := a) (by omega), ofNat_eq_of_toNat_eq (b := b) (by omega),
    ofNat_eq_of_toNat_eq (b := c) (by omega)]

/-- Four bytes likewise. That they are no overlong writing and within range narrows the second. -/
theorem utf8EncodeChar_four (ha : 0xF0 ≤ a.toNat) (ha' : a.toNat ≤ 0xF4) (hb : 0x80 ≤ b.toNat)
    (hb' : b.toNat ≤ 0xBF) (hc : 0x80 ≤ c.toNat) (hc' : c.toNat ≤ 0xBF) (hd : 0x80 ≤ d.toNat)
    (hd' : d.toNat ≤ 0xBF) (hlong : a.toNat = 0xF0 → 0x90 ≤ b.toNat)
    (hlast : a.toNat = 0xF4 → b.toNat ≤ 0x8F) :
    String.utf8EncodeChar
      (Char.ofNat (((a.toNat % 8 * 64 + b.toNat % 64) * 64 + c.toNat % 64) * 64 +
        d.toNat % 64)) = [a, b, c, d] := by
  have hv := toNat_val_ofNat
    (n := ((a.toNat % 8 * 64 + b.toNat % 64) * 64 + c.toNat % 64) * 64 + d.toNat % 64) (by omega)
  simp only [String.utf8EncodeChar, hv]
  rw [if_neg (by omega), if_neg (by omega), if_neg (by omega),
    ofNat_eq_of_toNat_eq (b := a) (by omega), ofNat_eq_of_toNat_eq (b := b) (by omega),
    ofNat_eq_of_toNat_eq (b := c) (by omega), ofNat_eq_of_toNat_eq (b := d) (by omega)]

/-- What a first byte of several promises, by the number of bytes that follow. -/
inductive Lead.Promises (a : UInt8) : Lead → Prop where
  /-- a character of two bytes -/
  | two (ha : 0xC2 ≤ a.toNat) (ha' : a.toNat < 0xE0) : Promises a ⟨1, 0x80, 0xBF, a.toNat % 32⟩
  /-- a character of three bytes -/
  | three {low high : UInt8} {bits : Nat} (hbits : bits = a.toNat % 16) (ha : 0xE0 ≤ a.toNat)
    (ha' : a.toNat < 0xF0) (hlow : 0x80 ≤ low.toNat) (hhigh : high.toNat ≤ 0xBF)
    (hlong : a.toNat = 0xE0 → 0xA0 ≤ low.toNat) (hpair : a.toNat = 0xED → high.toNat ≤ 0x9F) :
    Promises a ⟨2, low, high, bits⟩
  /-- a character of four bytes -/
  | four {low high : UInt8} {bits : Nat} (hbits : bits = a.toNat % 8) (ha : 0xF0 ≤ a.toNat)
    (ha' : a.toNat ≤ 0xF4) (hlow : 0x80 ≤ low.toNat) (hhigh : high.toNat ≤ 0xBF)
    (hlong : a.toNat = 0xF0 → 0x90 ≤ low.toNat) (hlast : a.toNat = 0xF4 → high.toNat ≤ 0x8F) :
    Promises a ⟨3, low, high, bits⟩

/-- Every first byte that is taken as one keeps what it promises: the ranges are those of the
standard. -/
theorem Lead.promises_of_ofByte? {lead : Lead} (h : Lead.ofByte? a = some lead) :
    lead.Promises a := by
  simp only [ofByte?, UInt8.lt_iff_toNat_lt, ← UInt8.toNat_inj, UInt8.reduceToNat] at h
  -- the next byte has a narrower range after 0xE0, 0xED, 0xF0 and 0xF4, and after these only
  split_ifs at h with hone htwo hlong hpair hthree hlong' hfour hlast
  all_goals cases h
  · exact .two (by omega) (by omega)
  · exact .three (by omega) (by omega) (by omega) (by decide) (by decide) (fun _ => by decide)
      (by omega)
  · exact .three (by omega) (by omega) (by omega) (by decide) (by decide) (by omega)
      (fun _ => by decide)
  · exact .three rfl (by omega) (by omega) (by decide) (by decide) (by omega) (by omega)
  · exact .four (by omega) (by omega) (by omega) (by decide) (by decide) (fun _ => by decide)
      (by omega)
  · exact .four rfl (by omega) (by omega) (by decide) (by decide) (by omega) (by omega)
  · exact .four (by omega) (by omega) (by omega) (by decide) (by decide) (by omega)
      (fun _ => by decide)

/-- A first byte and the bytes that complete its code point are the writing of that character. -/
theorem eq_encode_of_follow {lead : Lead} (hlead : lead.Promises a) {n : Nat} {bs rest : List UInt8}
    (h : follow lead.more lead.low lead.high lead.bits bs = (some n, rest)) :
    a :: bs = String.utf8EncodeChar (Char.ofNat n) ++ rest := by
  cases hlead with
  | two ha ha' =>
    obtain ⟨b, bs, rfl, hb, hb', h⟩ := follow_succ_eq_some h
    obtain ⟨rfl, rfl⟩ := follow_zero_eq_some h
    rw [utf8EncodeChar_two ha ha' hb hb']
    rfl
  | three hbits ha ha' hlow hhigh hlong hpair =>
    obtain ⟨b, bs, rfl, hb, hb', h⟩ := follow_succ_eq_some h
    obtain ⟨c, bs, rfl, hc, hc', h⟩ := follow_succ_eq_some h
    obtain ⟨rfl, rfl⟩ := follow_zero_eq_some h
    rw [hbits, utf8EncodeChar_three ha ha' (hlow.trans hb) (hb'.trans hhigh) hc hc'
      (fun h => (hlong h).trans hb) (fun h => hb'.trans (hpair h))]
    rfl
  | four hbits ha ha' hlow hhigh hlong hlast =>
    obtain ⟨b, bs, rfl, hb, hb', h⟩ := follow_succ_eq_some h
    obtain ⟨c, bs, rfl, hc, hc', h⟩ := follow_succ_eq_some h
    obtain ⟨d, bs, rfl, hd, hd', h⟩ := follow_succ_eq_some h
    obtain ⟨rfl, rfl⟩ := follow_zero_eq_some h
    rw [hbits, utf8EncodeChar_four ha ha' (hlow.trans hb) (hb'.trans hhigh) hc hc' hd hd'
      (fun h => (hlong h).trans hb) (fun h => hb'.trans (hlast h))]
    rfl

/-- **Characters are read as they are written.** A character at the front of some bytes is there
with the bytes that it would be written with. -/
theorem eq_encode_of_decodeChar {ch : Char} {bs rest : List UInt8}
    (h : decodeChar a bs = (some ch, rest)) : a :: bs = String.utf8EncodeChar ch ++ rest := by
  rw [decodeChar] at h
  split at h
  · next ha =>
    cases h
    rw [utf8EncodeChar_one ha]
    rfl
  · split at h
    · cases h
    · next lead hlead =>
      obtain ⟨hch, hrest⟩ := Prod.mk.inj h
      obtain ⟨n, hn, rfl⟩ := Option.map_eq_some_iff.mp hch
      exact eq_encode_of_follow (Lead.promises_of_ofByte? hlead) (Prod.ext hn hrest)

/-! ## Whole texts -/

/-- Looking for the bytes of a code point leaves an end of the bytes, also where it breaks off. -/
theorem follow_suffix (more : Nat) (low high : UInt8) (bits : Nat) (bs : List UInt8) :
    (follow more low high bits bs).2 <:+ bs := by
  induction more generalizing low high bits bs with
  | zero => exact List.suffix_rfl
  | succ more ih =>
    rcases bs with _ | ⟨b, bs⟩
    · exact List.suffix_rfl
    · rw [follow]
      split
      · exact (ih ..).trans (List.suffix_cons b bs)
      · exact List.suffix_rfl

/-- Reading a character or a broken piece leaves an end of the bytes. -/
theorem decodeChar_suffix (a : UInt8) (bs : List UInt8) : (decodeChar a bs).2 <:+ bs := by
  rw [decodeChar]
  split
  · exact List.suffix_rfl
  · split
    · exact List.suffix_rfl
    · exact follow_suffix ..

/-- No piece of bytes without a zero is a NUL. -/
theorem nul_notMem_pieces {bs : List UInt8} (h : 0 ∉ bs) : some '\x00' ∉ pieces bs := by
  fun_induction pieces bs with
  | case1 => exact List.not_mem_nil
  | case2 a bs ih =>
    have hrest : 0 ∉ (decodeChar a bs).2 := fun hmem =>
      h (List.mem_cons_of_mem a ((decodeChar_suffix a bs).subset hmem))
    refine List.not_mem_cons_of_ne_of_not_mem (fun hnul => ?_) (ih hrest)
    -- a NUL would have been read off a zero byte
    have hbytes := eq_encode_of_decodeChar (Prod.ext hnul.symm rfl)
    rw [hbytes] at h
    exact h (List.mem_append_left _ (by decide))

/-- **No NUL comes from bytes without a zero.** -/
theorem nul_notMem_decodeLossy {bs : List UInt8} (h : 0 ∉ bs) : '\x00' ∉ decodeLossy bs := by
  intro hmem
  obtain ⟨_ | ch, hpiece, hch⟩ := List.mem_map.mp hmem
  · exact absurd hch (by decide)
  · obtain rfl : ch = '\x00' := hch
    exact nul_notMem_pieces h hpiece

end Text

/-! ## Texts from a host and to it -/

/-- A text from a host holds no NUL once it is read. -/
theorem HostText.nul_notMem_text (t : HostText) : '\x00' ∉ t.text.toList := by
  rw [text, String.toList_ofList]
  exact Text.nul_notMem_decodeLossy t.nul_notMem

/-- A text without a NUL loses nothing on its way to a host. -/
theorem HostText.ofString_bytes {s : String} (h : '\x00' ∉ s.toList) :
    (ofString s).bytes = Text.encode s.toList := by
  have hkept : s.toList.filter (· ≠ '\x00') = s.toList := by
    refine List.filter_eq_self.mpr fun c hc => decide_eq_true ?_
    rintro rfl
    exact h hc
  exact congrArg Text.encode hkept

theorem nul_notMem_append {s t : String} :
    '\x00' ∉ (s ++ t).toList ↔ '\x00' ∉ s.toList ∧ '\x00' ∉ t.toList := by
  rw [String.toList_append, List.mem_append, not_or]

/-- Numbers are written without a NUL. -/
theorem nul_notMem_toDigits (n : Nat) : '\x00' ∉ Nat.toDigits 10 n := by
  intro hmem
  exact absurd (Nat.isDigit_of_mem_toDigits (by decide) (by decide) hmem) (by decide)

/-- A version that a host reports is shown without a NUL, whatever bytes the host gives for it. -/
theorem VersionReport.nul_notMem_text (report : VersionReport) :
    '\x00' ∉ report.read.text.toList := by
  rcases htext : report.text with _ | bs
  · simp [read, htext, nul_notMem_toDigits]
  · simpa [read, htext] using (HostText.ofBytes bs).nul_notMem_text

theorem HostFunction.nul_notMem_name (f : HostFunction) : '\x00' ∉ f.name.toList := by
  cases f <;> decide +kernel

/-- The wording of a failure holds a NUL only if the version it names does. -/
theorem LoadError.nul_notMem_message {e : LoadError}
    (h : ∀ found, e = .unsupported found → '\x00' ∉ found.toList) :
    '\x00' ∉ e.message.toList := by
  cases e with
  | missing f =>
    refine nul_notMem_append.mpr ⟨?_, by decide +kernel⟩
    exact nul_notMem_append.mpr ⟨by decide +kernel, f.nul_notMem_name⟩
  | unsupported found =>
    refine nul_notMem_append.mpr ⟨?_, by decide +kernel⟩
    exact nul_notMem_append.mpr ⟨by decide +kernel, h found rfl⟩
  | _ => decide +kernel

/-- The report of a failure is its wording with an introduction, so it adds no NUL either. -/
theorem LoadError.nul_notMem_report {e : LoadError}
    (h : ∀ found, e = .unsupported found → '\x00' ∉ found.toList) : '\x00' ∉ e.report.toList :=
  nul_notMem_append.mpr ⟨by decide +kernel, nul_notMem_message h⟩

end EngineExtension
