import EngineExtension.Host.Printer
import EngineExtension.Proofs.HostText

/-!
# Text across the boundary to a host

Text goes to a host and comes from one as bytes that end at the first NUL. A text that goes out
loses its NULs, which bytes of this kind cannot hold, and nothing else: the host can read it back.
And what comes in, be it text or not, is read as something that can go out again as it is.

* `Text.BytesOf` — the bytes of a character, by their number. What is written for a character has
  this form (`Text.bytesOf_utf8EncodeChar`), and what has this form is read as the character
  (`Text.BytesOf.decodeChar_append`);
* `Text.decodeLossy_encode` — reading undoes writing;
* `HostText.strict?` — bytes taken as they are, and refused if one of them is NUL;
* `HostText.text_ofString` — what a host reads of a text;
* `host_text_crosses_whole` — both directions, and the one after the other.
-/

namespace EngineExtension

namespace Text

/-! ## The bytes of a character -/

/-- The bytes of a character. The second byte is bound further where the number would fit into fewer
bytes, and where it is the number of no character. -/
inductive BytesOf (ch : Char) : List UInt8 → Prop where
  | one {a : UInt8} (hch : a.toNat = ch.toNat) (ha : a.toNat < 0x80) : BytesOf ch [a]
  | two {a b : UInt8} (hch : a.toNat % 32 * 64 + b.toNat % 64 = ch.toNat)
    (ha : 0xC2 ≤ a.toNat) (ha' : a.toNat < 0xE0) (hb : 0x80 ≤ b.toNat) (hb' : b.toNat ≤ 0xBF) :
    BytesOf ch [a, b]
  | three {a b c : UInt8}
    (hch : (a.toNat % 16 * 64 + b.toNat % 64) * 64 + c.toNat % 64 = ch.toNat)
    (ha : 0xE0 ≤ a.toNat) (ha' : a.toNat < 0xF0)
    (hb : (if a.toNat = 0xE0 then 0xA0 else 0x80) ≤ b.toNat)
    (hb' : b.toNat ≤ if a.toNat = 0xED then 0x9F else 0xBF)
    (hc : 0x80 ≤ c.toNat) (hc' : c.toNat ≤ 0xBF) : BytesOf ch [a, b, c]
  | four {a b c d : UInt8}
    (hch : ((a.toNat % 8 * 64 + b.toNat % 64) * 64 + c.toNat % 64) * 64 + d.toNat % 64 = ch.toNat)
    (ha : 0xF0 ≤ a.toNat) (ha' : a.toNat ≤ 0xF4)
    (hb : (if a.toNat = 0xF0 then 0x90 else 0x80) ≤ b.toNat)
    (hb' : b.toNat ≤ if a.toNat = 0xF4 then 0x8F else 0xBF)
    (hc : 0x80 ≤ c.toNat) (hc' : c.toNat ≤ 0xBF) (hd : 0x80 ≤ d.toNat) (hd' : d.toNat ≤ 0xBF) :
    BytesOf ch [a, b, c, d]

/-- A character is written by its bytes. -/
theorem bytesOf_utf8EncodeChar (ch : Char) : BytesOf ch (String.utf8EncodeChar ch) := by
  have hvalid : ch.toNat < 0xD800 ∨ 0xDFFF < ch.toNat ∧ ch.toNat < 0x110000 := ch.valid
  have hbyte : ∀ n, n < 256 → (UInt8.ofNat n).toNat = n := fun n hn => UInt8.toNat_ofNat_of_lt' hn
  simp only [String.utf8EncodeChar, Char.toNat_val]
  split
  · have ha := hbyte ch.toNat (by omega)
    exact .one ha (by omega)
  split
  · have ha := hbyte (ch.toNat / 64 % 32 + 0xC0) (by omega)
    have hb := hbyte (ch.toNat % 64 + 0x80) (by omega)
    exact .two (by omega) (by omega) (by omega) (by omega) (by omega)
  split
  · have ha := hbyte (ch.toNat / 4096 % 16 + 0xE0) (by omega)
    have hb := hbyte (ch.toNat / 64 % 64 + 0x80) (by omega)
    have hc := hbyte (ch.toNat % 64 + 0x80) (by omega)
    refine .three (by omega) (by omega) (by omega) ?_ ?_ (by omega) (by omega)
    · split <;> omega
    · -- the numbers after 0xED 0x9F belong to no character
      split <;> omega
  · have ha := hbyte (ch.toNat / 262144 % 8 + 0xF0) (by omega)
    have hb := hbyte (ch.toNat / 4096 % 64 + 0x80) (by omega)
    have hc := hbyte (ch.toNat / 64 % 64 + 0x80) (by omega)
    have hd := hbyte (ch.toNat % 64 + 0x80) (by omega)
    refine .four (by omega) (by omega) (by omega) ?_ ?_ (by omega) (by omega) (by omega) (by omega)
    · split <;> omega
    · -- 0xF4 0x8F begins the last characters there are
      split <;> omega

/-! ## Reading a character -/

section Reading

variable {a b : UInt8} {ch : Char} {lead : Lead} {bs rest : List UInt8}

/-- What a first byte promises when one byte follows. -/
theorem Lead.ofByte?_of_two (ha : 0xC2 ≤ a.toNat) (ha' : a.toNat < 0xE0) :
    ofByte? a = some ⟨1, 0x80, 0xBF, a.toNat % 32⟩ := by
  simp only [ofByte?, UInt8.lt_iff_toNat_lt, UInt8.reduceToNat]
  rw [if_neg (by omega), if_pos (by omega)]

/-- What a first byte promises when two bytes follow. -/
theorem Lead.ofByte?_of_three (ha : 0xE0 ≤ a.toNat) (ha' : a.toNat < 0xF0) :
    ∃ low high : UInt8, ofByte? a = some ⟨2, low, high, a.toNat % 16⟩ ∧
      low.toNat = (if a.toNat = 0xE0 then 0xA0 else 0x80) ∧
      high.toNat = if a.toNat = 0xED then 0x9F else 0xBF := by
  simp only [ofByte?, UInt8.lt_iff_toNat_lt, ← UInt8.toNat_inj, UInt8.reduceToNat]
  rw [if_neg (by omega), if_neg (by omega)]
  by_cases hlong : a.toNat = 0xE0
  · exact ⟨0xA0, 0xBF, by simp [hlong]⟩
  by_cases hpair : a.toNat = 0xED
  · exact ⟨0x80, 0x9F, by simp [hpair]⟩
  · exact ⟨0x80, 0xBF, by simp [hlong, hpair, ha']⟩

/-- What a first byte promises when three bytes follow. -/
theorem Lead.ofByte?_of_four (ha : 0xF0 ≤ a.toNat) (ha' : a.toNat ≤ 0xF4) :
    ∃ low high : UInt8, ofByte? a = some ⟨3, low, high, a.toNat % 8⟩ ∧
      low.toNat = (if a.toNat = 0xF0 then 0x90 else 0x80) ∧
      high.toNat = if a.toNat = 0xF4 then 0x8F else 0xBF := by
  simp only [ofByte?, UInt8.lt_iff_toNat_lt, ← UInt8.toNat_inj, UInt8.reduceToNat]
  rw [if_neg (by omega), if_neg (by omega), if_neg (by omega), if_neg (by omega),
    if_neg (by omega)]
  by_cases hlong : a.toNat = 0xF0
  · exact ⟨0x90, 0xBF, by simp [hlong]⟩
  by_cases hlast : a.toNat = 0xF4
  · exact ⟨0x80, 0x8F, by simp [hlast]⟩
  · have hmid : a.toNat < 0xF4 := by omega
    exact ⟨0x80, 0xBF, by simp [hlong, hlast, hmid]⟩

/-- A byte within its range adds six bits. -/
theorem follow_cons {more bits : Nat} {low high : UInt8} (hlow : low.toNat ≤ b.toNat)
    (hhigh : b.toNat ≤ high.toNat) :
    follow (more + 1) low high bits (b :: bs) =
      follow more 0x80 0xBF (bits * 64 + b.toNat % 64) bs := by
  rw [follow, if_pos ⟨hlow, hhigh⟩]

/-- A first byte that promises more, with the bytes that keep the promise, is read as their
character. -/
theorem decodeChar_of_follow {n : Nat} (ha : 0x80 ≤ a.toNat) (hlead : Lead.ofByte? a = some lead)
    (h : follow lead.more lead.low lead.high lead.bits bs = (some n, rest)) (hn : n = ch.toNat) :
    decodeChar a bs = (some ch, rest) := by
  have hmany : ¬ a < 0x80 := by
    rw [UInt8.lt_iff_toNat_lt]
    exact Nat.not_lt.mpr ha
  simp [decodeChar, hmany, hlead, h, hn]

/-- The bytes of a character are read as that character, whatever comes after them. -/
theorem BytesOf.decodeChar_append (h : BytesOf ch (a :: bs)) (rest : List UInt8) :
    decodeChar a (bs ++ rest) = (some ch, rest) := by
  cases h with
  | one hch ha =>
    have hone : a < 0x80 := UInt8.lt_iff_toNat_lt.mpr ha
    simp [decodeChar, hone, hch]
  | two hch ha ha' hb hb' =>
    refine decodeChar_of_follow (by omega) (Lead.ofByte?_of_two ha ha') ?_ hch
    exact follow_cons hb hb'
  | three hch ha ha' hb hb' hc hc' =>
    obtain ⟨low, high, hlead, hlow, hhigh⟩ := Lead.ofByte?_of_three ha ha'
    refine decodeChar_of_follow (by omega) hlead ?_ hch
    calc follow 2 low high _ _
        = follow 1 0x80 0xBF _ _ := follow_cons (hlow.trans_le hb) (hb'.trans_eq hhigh.symm)
      _ = (some _, rest) := follow_cons hc hc'
  | four hch ha ha' hb hb' hc hc' hd hd' =>
    obtain ⟨low, high, hlead, hlow, hhigh⟩ := Lead.ofByte?_of_four ha ha'
    refine decodeChar_of_follow (by omega) hlead ?_ hch
    calc follow 3 low high _ _
        = follow 2 0x80 0xBF _ _ := follow_cons (hlow.trans_le hb) (hb'.trans_eq hhigh.symm)
      _ = follow 1 0x80 0xBF _ _ := follow_cons hc hc'
      _ = (some _, rest) := follow_cons hd hd'

end Reading

/-! ## Reading a text -/

/-- The bytes of characters are read as these characters, with no piece broken. -/
theorem pieces_encode (cs : List Char) : pieces (encode cs) = cs.map some := by
  induction cs with
  | nil => simp [encode, pieces]
  | cons ch cs ih =>
    have hbytes := bytesOf_utf8EncodeChar ch
    have hencode : encode (ch :: cs) = String.utf8EncodeChar ch ++ encode cs := List.flatMap_cons
    rcases hch : String.utf8EncodeChar ch with _ | ⟨a, bs⟩
    · rw [hch] at hbytes
      cases hbytes
    · rw [hch] at hbytes hencode
      rw [hencode, List.cons_append, pieces, hbytes.decodeChar_append, ih]
      rfl

/-- **Reading undoes writing.** -/
theorem decodeLossy_encode (cs : List Char) : decodeLossy (encode cs) = cs := by
  rw [decodeLossy, pieces_encode, List.map_map]
  exact List.map_id cs

end Text

namespace HostText

/-- Bytes taken as they are. They are refused if one of them is NUL. -/
def strict? (bs : List UInt8) : Option HostText := if h : 0 ∈ bs then none else some ⟨bs, h⟩

/-- A host text is what stands in front of the NUL that ends it. -/
theorem ofBytes_append_nul (t : HostText) (beyond : List UInt8) :
    ofBytes (t.bytes ++ 0 :: beyond) = t := by
  have hkept : ∀ b ∈ t.bytes, decide (b ≠ 0) = true := by
    intro b hb
    refine decide_eq_true ?_
    rintro rfl
    exact t.nul_notMem hb
  ext1
  change (t.bytes ++ 0 :: beyond).takeWhile (· ≠ 0) = t.bytes
  rw [List.takeWhile_append_of_pos hkept]
  simp

/-- Nothing behind the first zero byte matters. -/
theorem ofBytes_congr {bs other : List UInt8} (h : other.takeWhile (· ≠ 0) = bs.takeWhile (· ≠ 0)) :
    ofBytes other = ofBytes bs := ext h

/-- The bytes that a text holds are never refused. -/
theorem strict?_bytes (t : HostText) : strict? t.bytes = some t := dif_neg t.nul_notMem

/-- What a host reads of a text is the text without its NULs. -/
theorem text_ofString (s : String) :
    (ofString s).text = String.ofList (s.toList.filter (· ≠ '\x00')) := by
  rw [text]
  exact congrArg String.ofList (Text.decodeLossy_encode _)

/-- A text without a NUL comes back from a host as it was. -/
theorem text_ofString_of_notMem {s : String} (h : '\x00' ∉ s.toList) : (ofString s).text = s := by
  rw [text, ofString_bytes h, Text.decodeLossy_encode, String.ofList_toList]

theorem text_ofBytes_of_encode {bs : List UInt8} {s : String}
    (h : bs.takeWhile (· ≠ 0) = Text.encode s.toList) : (ofBytes bs).text = s := by
  have hbytes : (ofBytes bs).bytes = Text.encode s.toList := h
  rw [text, hbytes, Text.decodeLossy_encode, String.ofList_toList]

end HostText

/-- **Text crosses whole.** On its way to a host, a text is stripped of its NULs, so that its bytes
are never refused. The host finds them in front of a NUL, with whatever memory comes after it, and
if it reads them as an extension reads a host's text, it reads the text without its NULs, down to
the last character and with none replaced.

On the way back, a host can give any bytes for its version. What is read holds no NUL. It depends on
the bytes in front of the first NUL alone, and it is their text if they are text. And whatever it
is, told back to a host it is read as it was, whether as an error or as a warning. -/
theorem host_text_crosses_whole :
    (∀ s : String,
      HostText.strict? (Text.encode (s.toList.filter (· ≠ '\x00'))) = some (HostText.ofString s) ∧
      ∀ (report : VersionReport) (beyond : List UInt8),
        report.text = some ((HostText.ofString s).bytes ++ 0 :: beyond) →
        report.read.text = String.ofList (s.toList.filter (· ≠ '\x00'))) ∧
    ∀ (report : VersionReport) (bs : List UInt8), report.text = some bs →
      '\x00' ∉ report.read.text.toList ∧
      (∀ (other : VersionReport) (bs' : List UInt8), other.text = some bs' →
        bs'.takeWhile (· ≠ 0) = bs.takeWhile (· ≠ 0) → other.read.text = report.read.text) ∧
      (∀ s : String, bs.takeWhile (· ≠ 0) = Text.encode s.toList → report.read.text = s) ∧
      ∀ (p : Printer) (function file : String) (line : Nat),
        (p.error report.read.text function file line).description.text = report.read.text ∧
        (p.warning report.read.text function file line).description.text = report.read.text := by
  have hread : ∀ {report : VersionReport} {bs : List UInt8}, report.text = some bs →
      report.read.text = (HostText.ofBytes bs).text := by
    intro report bs hbs
    simp [VersionReport.read, hbs]
  refine ⟨fun s => ⟨(HostText.ofString s).strict?_bytes, fun report beyond hbytes => ?_⟩,
    fun report bs hbs => ⟨report.nul_notMem_text, fun other bs' hbs' hsame => ?_,
      fun s hs => ?_, fun p function file line => ?_⟩⟩
  · rw [hread hbytes, HostText.ofBytes_append_nul, HostText.text_ofString]
  · rw [hread hbs, hread hbs', HostText.ofBytes_congr hsame]
  · rw [hread hbs, HostText.text_ofBytes_of_encode hs]
  · have hback := HostText.text_ofString_of_notMem report.nul_notMem_text
    exact ⟨hback, hback⟩

/-- A version whose text breaks off within a character, at a NUL. -/
def VersionReport.cut : VersionReport := { text := some [0x34, 0xC3, 0x00, 0xA9] }

/-- The broken character is replaced once, when it is read; told to a host, the text stays as it is.
A text for a host loses its NUL and keeps what comes after it. -/
theorem host_text_crosses_whole_cut :
    VersionReport.cut.read.text = "4\uFFFD" ∧
    (Printer.error ⟨0, true⟩ VersionReport.cut.read.text "" "" 0).description.text = "4\uFFFD" ∧
    (VersionReport.read
      { text := some ((HostText.ofString "a\x00é").bytes ++ [0x00, 0x62]) }).text = "aé" := by
  obtain ⟨hout, hin⟩ := host_text_crosses_whole
  have hcut : VersionReport.cut.read.text = "4\uFFFD" := by decide +kernel
  have hback := (hin .cut _ rfl).2.2.2 ⟨0, true⟩ "" "" 0
  refine ⟨hcut, ?_, (hout "a\x00é").2 _ [0x62] rfl⟩
  rw [hback.1, hcut]

end EngineExtension
