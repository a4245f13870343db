import EngineExtension.Text.Utf8

/-!
# Text at the boundary to a host

A host and an extension hand each other text as bytes that end at the first NUL. `HostText` is
such a byte string without its terminator: no byte of it is NUL.

* `HostText.ofBytes` — what a host's bytes mean: everything before the first NUL;
* `HostText.ofString` — what a text becomes on its way out: its UTF-8 bytes, NULs left out;
* `HostText.text` — reads it back, tolerating broken UTF-8.
-/

namespace EngineExtension

/-- Bytes of a text that ends at the first NUL. -/
structure HostText where
  bytes : List UInt8
  nul_notMem : 0 ∉ bytes
  deriving DecidableEq

namespace HostText

@[ext]
theorem ext {a b : HostText} (h : a.bytes = b.bytes) : a = b := by
  cases a; cases b; cases h; rfl

instance : Inhabited HostText := ⟨⟨[], List.not_mem_nil⟩⟩

/-- The text that starts some bytes: it ends in front of the first NUL. -/
def ofBytes (bs : List UInt8) : HostText where
  bytes := bs.takeWhile (· ≠ 0)
  nul_notMem := fun h => by simpa using List.all_eq_true.1 (List.all_takeWhile) _ h

/-- Only NUL has a zero byte in its encoding. -/
theorem zero_notMem_utf8EncodeChar {c : Char} (h : c ≠ '\x00') :
    0 ∉ String.utf8EncodeChar c := by
  have hv : c.val.toNat ≠ 0 := fun h0 => h (Char.ext (UInt32.toNat_inj.1 h0))
  have hb : ∀ n, n ≠ 0 → n < 256 → (0 : UInt8) ≠ UInt8.ofNat n := by
    intro n h0 hn h
    have := congrArg UInt8.toNat h
    rw [UInt8.toNat_ofNat_of_lt' (by simpa using hn)] at this
    exact h0 this.symm
  unfold String.utf8EncodeChar
  simp only
  split
  · simp only [List.mem_cons, List.not_mem_nil, or_false]
    exact hb _ hv (by omega)
  · split
    · simp only [List.mem_cons, List.not_mem_nil, or_false, not_or]
      exact ⟨hb _ (by omega) (by omega), hb _ (by omega) (by omega)⟩
    · split
      · simp only [List.mem_cons, List.not_mem_nil, or_false, not_or]
        exact ⟨hb _ (by omega) (by omega), hb _ (by omega) (by omega), hb _ (by omega) (by omega)⟩
      · simp only [List.mem_cons, List.not_mem_nil, or_false, not_or]
        exact ⟨hb _ (by omega) (by omega), hb _ (by omega) (by omega), hb _ (by omega) (by omega),
          hb _ (by omega) (by omega)⟩

/-- The bytes of a text, without its NUL characters. -/
def ofString (s : String) : HostText where
  bytes := Text.encode (s.toList.filter (· ≠ '\x00'))
  nul_notMem := fun h => by
    obtain ⟨c, hc, h⟩ := List.mem_flatMap.1 h
    exact zero_notMem_utf8EncodeChar (by simpa using (List.mem_filter.1 hc).2) h

/-- Reads the bytes back, one replacement character for each broken piece. -/
def text (t : HostText) : String := String.ofList (Text.decodeLossy t.bytes)

end HostText

end EngineExtension
