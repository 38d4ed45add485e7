import NemoClaw.Lib.JsonText
import NemoClaw.Lib.Ustar
import NemoClaw.Onboard.RootApplyRequest

/- The request that a managed bootstrap hands to the container it prepares.

The envelope is one line of JSON with the identity of the bootstrap and the root apply
request in base64. It is copied into the stopped container as an archive with one file,
whose header makes it readable for root alone.

Correspondence (src/lib/onboard/managed-bootstrap/envelope.ts ↔ Lean): the functions keep
their names. A buffer is the list of its bytes; a thrown error is its message. A byte that
is not part of a UTF-8 character is read as U+FFFD.

What is proved: `serializeManagedBootstrapEnvelopeTar_reads`, that the archive is read as
one file with the envelope, and the envelope as the identity and the request.
-/
namespace NemoClaw.BootstrapEnvelope

open Js ManagedStartup Ustar List

/-! ## The envelope -/

def managedBootstrapRequestFile : String := "/var/lib/nemoclaw-managed-bootstrap-request.json"

def managedBootstrapRequestTarPath : String :=
  .ofList (managedBootstrapRequestFile.toList.dropWhile (· = '/'))

def managedBootstrapEnvelopeMaxBytes : ℕ := (managedStartupRootApplyMaxBytes + 2) / 3 * 4 + 1024

structure ManagedBootstrapEnvelope where
  schemaVersion : ℕ
  bootstrapIdentity : String
  rootApplyRequest : ManagedStartupRootApplyRequest
  deriving DecidableEq

def malformed (message : String) : String := "Managed bootstrap envelope is invalid: " ++ message

/-- `Buffer.from(text, "utf8")`. -/
def utf8 (text : String) : Bytes := text.toList.flatMap String.utf8EncodeChar

/-- `bytes.toString("utf8")`. -/
def fromUtf8 (bytes : Bytes) : String := .ofList (JsonText.decodeUtf8 bytes.length bytes)

def toBase64 (bytes : Bytes) : String := .ofList (Base64.encode bytes)

/-- The line that is sent. -/
def envelopeText (bootstrapIdentity requestB64 : String) : String :=
  objectText [("bootstrapIdentity", quote bootstrapIdentity),
    ("rootApplyRequestB64", quote requestB64), ("schemaVersion", "1")] ++ "\n"

section Api

variable {P : Type} (profiles : Profiles P)

def serializeManagedBootstrapEnvelope (bootstrapIdentity : String)
    (rootApplyRequest : ManagedStartupRootApplyRequest) : Except String String := do
  require (isLowerHexOf 64 bootstrapIdentity)
    (malformed "bootstrap identity must be 32 random bytes encoded as lowercase hex")
  let request ← serializeManagedStartupRootApplyRequest profiles rootApplyRequest
  let serialized := envelopeText bootstrapIdentity (toBase64 (utf8 request))
  require (byteLength serialized ≤ managedBootstrapEnvelopeMaxBytes)
    (malformed "serialized envelope exceeds its bounded transport")
  pure serialized

/-- The identity and the request of a record that has the schema. -/
def readEnvelopeRecord (record : Json) : Option (String × String) := do
  guard (hasExactKeys record ["bootstrapIdentity", "rootApplyRequestB64", "schemaVersion"])
  guard (readInteger (record.get? "schemaVersion") = some 1)
  let bootstrapIdentity ← readString (record.get? "bootstrapIdentity")
  guard (isLowerHexOf 64 bootstrapIdentity)
  let requestB64 ← readString (record.get? "rootApplyRequestB64")
  guard (Base64.isStandard requestB64.toList)
  some (bootstrapIdentity, requestB64)

def parseManagedBootstrapEnvelope (text : String) : Except String ManagedBootstrapEnvelope := do
  require ('\x00' ∉ text.toList) (malformed "serialized envelope contains NUL")
  require (text ≠ "" ∧ byteLength text ≤ managedBootstrapEnvelopeMaxBytes)
    (malformed "serialized envelope is empty or too large")
  let record ← orFail (parseJson text) (malformed "serialized envelope is not valid JSON")
  require (record.isObject) (malformed "serialized envelope must be an object")
  let (bootstrapIdentity, requestB64) ← orFail (readEnvelopeRecord record)
    (malformed "serialized envelope has an invalid schema")
  let requestBytes := Base64.decode requestB64.toList
  require (toBase64 requestBytes = requestB64)
    (malformed "root application request transport is non-canonical")
  let rootApplyRequest ← parseManagedStartupRootApplyRequest profiles (fromUtf8 requestBytes)
  let serialized ← serializeManagedBootstrapEnvelope profiles bootstrapIdentity rootApplyRequest
  require (serialized = text) (malformed "serialized envelope is not canonical")
  pure { schemaVersion := 1, bootstrapIdentity, rootApplyRequest }

end Api

def writeTarText (header : Bytes) (offset length : ℕ) (value : Bytes) : Except String Bytes := do
  require (value.length ≤ length) (malformed "protected request tar field exceeds its bound")
  pure (write header offset value)

/-- `padStart(length, "0")`. -/
def padStart (length : ℕ) (text : Bytes) : Bytes := List.replicate (length - text.length) 48 ++ text

def writeTarOctal (header : Bytes) (offset length value : ℕ) : Except String Bytes := do
  let encoded := padStart (length - 1) (octal value)
  require (encoded.length = length - 1)
    (malformed "protected request tar integer exceeds its bound")
  writeTarText header offset length (encoded ++ [0])

def headerWithoutChecksum (payloadLength : ℕ) : Except String Bytes := do
  let header := List.replicate 512 0
  let header ← writeTarText header 0 100 (utf8 managedBootstrapRequestTarPath)
  let header ← writeTarOctal header 100 8 0o400
  let header ← writeTarOctal header 108 8 0
  let header ← writeTarOctal header 116 8 0
  let header ← writeTarOctal header 124 12 payloadLength
  let header ← writeTarOctal header 136 12 0
  let header := write header 148 spaces
  let header := write header 156 [48]
  let header ← writeTarText header 257 6 (utf8 "ustar\x00")
  let header ← writeTarText header 263 2 (utf8 "00")
  let header ← writeTarText header 265 32 (utf8 "root")
  let header ← writeTarText header 297 32 (utf8 "root")
  let header ← writeTarOctal header 329 8 0
  writeTarOctal header 337 8 0

def tarHeader (payloadLength : ℕ) : Except String Bytes := do
  let header ← headerWithoutChecksum payloadLength
  let checksumText := padStart 6 (octal (total header))
  require (checksumText.length = 6)
    (malformed "protected request tar checksum exceeds its bound")
  writeTarText header 148 8 (checksumText ++ [0, 32])

def serializeManagedBootstrapEnvelopeTar {P : Type} (profiles : Profiles P)
    (bootstrapIdentity : String) (rootApplyRequest : ManagedStartupRootApplyRequest) :
    Except String Bytes := do
  let serialized ← serializeManagedBootstrapEnvelope profiles bootstrapIdentity rootApplyRequest
  let payload := utf8 serialized
  let header ← tarHeader payload.length
  let paddedPayloadBytes := (payload.length + 511) / 512 * 512
  let archive := List.replicate (512 + paddedPayloadBytes + 1024) 0
  pure (write (write archive 0 header) 512 payload)

/-! ## The header -/

lemma writeTarText_ok {header value : Bytes} {offset length : ℕ} (h : value.length ≤ length) :
    writeTarText header offset length value = .ok (write header offset value) :=
  require_bind_ok h rfl

lemma writeTarOctal_ok {header : Bytes} {offset length value : ℕ} (hlength : 0 < length)
    (h : value < 8 ^ length) :
    writeTarOctal header offset (length + 1) value =
      .ok (write header offset (octalField length value)) := by
  have hdigits := length_octal_le hlength h
  have hpad : (padStart length (octal value)).length = length := by
    simp only [padStart, length_append, length_replicate]; omega
  refine require_bind_ok hpad (writeTarText_ok ?_)
  simp [hpad]

def headerParts (payloadLength : ℕ) : List (ℕ × Bytes) :=
  [(0, utf8 managedBootstrapRequestTarPath), (100, octalField 7 0o400), (108, octalField 7 0),
    (116, octalField 7 0), (124, octalField 11 payloadLength), (136, octalField 11 0),
    (148, spaces), (156, [48]), (257, utf8 "ustar\x00"), (263, utf8 "00"), (265, utf8 "root"),
    (297, utf8 "root"), (329, octalField 7 0), (337, octalField 7 0)]

def headerExtents : List (ℕ × ℕ) :=
  [(0, 47), (100, 8), (108, 8), (116, 8), (124, 12), (136, 12), (148, 8), (156, 1), (257, 6),
    (263, 2), (265, 4), (297, 4), (329, 8), (337, 8)]

def zeroHeader : Bytes := List.replicate 512 0

def headerBytes (payloadLength : ℕ) : Bytes := writeAll zeroHeader (headerParts payloadLength)

section Header

variable {n : ℕ}

lemma extents_headerParts (h : n < 8 ^ 11) : extents (headerParts n) = headerExtents := by
  have hsize := length_octalField (by decide) h
  have hmode : (octalField 7 0o400).length = 8 := length_octalField (by decide) (by decide)
  have hzero : (octalField 7 0).length = 8 := length_octalField (by decide) (by decide)
  have htime : (octalField 11 0).length = 12 := length_octalField (by decide) (by decide)
  have htexts : (utf8 managedBootstrapRequestTarPath).length = 47 ∧
      (utf8 "ustar\x00").length = 6 ∧ (utf8 "00").length = 2 ∧ (utf8 "root").length = 4 ∧
      spaces.length = 8 := by
    decide +kernel
  obtain ⟨hpath, hmagic, hversion, hroot, hspaces⟩ := htexts
  simp only [extents, headerParts, headerExtents, map_cons, map_nil, hsize, hmode, hzero,
    htime, hpath, hmagic, hversion, hroot, hspaces, length_singleton]

lemma headerWithoutChecksum_ok (h : n < 8 ^ 11) :
    headerWithoutChecksum n = .ok (headerBytes n) := by
  refine except_bind_ok (writeTarText_ok (by decide +kernel)) ?_
  refine except_bind_ok (writeTarOctal_ok (by decide) (by decide)) ?_
  refine except_bind_ok (writeTarOctal_ok (by decide) (by decide)) ?_
  refine except_bind_ok (writeTarOctal_ok (by decide) (by decide)) ?_
  refine except_bind_ok (writeTarOctal_ok (by decide) h) ?_
  refine except_bind_ok (writeTarOctal_ok (by decide) (by decide)) ?_
  refine except_bind_ok (writeTarText_ok (by decide +kernel)) ?_
  refine except_bind_ok (writeTarText_ok (by decide +kernel)) ?_
  refine except_bind_ok (writeTarText_ok (by decide +kernel)) ?_
  refine except_bind_ok (writeTarText_ok (by decide +kernel)) ?_
  exact except_bind_ok (writeTarOctal_ok (by decide) (by decide))
    (writeTarOctal_ok (by decide) (by decide))

lemma length_zeroHeader : zeroHeader.length = 512 := length_replicate

lemma headerExtents_fit : ∀ e ∈ headerExtents, e.1 + e.2 ≤ zeroHeader.length := by
  rw [length_zeroHeader]; decide

lemma length_headerBytes (h : n < 8 ^ 11) : (headerBytes n).length = 512 :=
  (length_writeAll (extents_headerParts h ▸ headerExtents_fit)).trans length_zeroHeader

lemma slice_headerBytes (h : n < 8 ^ 11) {i offset length : ℕ} {part : Bytes}
    (hpart : (headerParts n)[i]? = some (offset, part))
    (hextent : headerExtents[i]? = some (offset, length))
    (hapart : ∀ e ∈ headerExtents.drop (i + 1), offset + length ≤ e.1 ∨ e.1 + e.2 ≤ offset) :
    slice (headerBytes n) offset length = part :=
  slice_writeAll_at (extents_headerParts h) headerExtents_fit hpart hextent hapart

lemma slice_headerBytes_zero (h : n < 8 ^ 11) {offset length : ℕ} (hfit : offset + length ≤ 512)
    (hapart : ∀ e ∈ headerExtents, offset + length ≤ e.1 ∨ e.1 + e.2 ≤ offset) :
    slice (headerBytes n) offset length = List.replicate length 0 := by
  have htable := extents_headerParts h
  rw [headerBytes, slice_writeAll_apart (htable ▸ headerExtents_fit) (htable ▸ hapart)]
  exact slice_replicate 0 hfit

/-- The checksum field, two digits short of its width, with a NUL and a space behind it. -/
def checksumField (n : ℕ) : Bytes := octalField 6 (total (headerBytes n)) ++ [32]

lemma total_headerBytes_lt (h : n < 8 ^ 11) : total (headerBytes n) < 8 ^ 6 := by
  have htotal := total_le (headerBytes n)
  rw [length_headerBytes h] at htotal; omega

lemma length_checksumField (h : n < 8 ^ 11) : (checksumField n).length = 8 := by
  rw [checksumField, length_append, length_octalField (by decide) (total_headerBytes_lt h)]
  rfl

lemma tarHeader_ok (h : n < 8 ^ 11) :
    tarHeader n = .ok (write (headerBytes n) 148 (checksumField n)) := by
  have hdigits := length_octal_le (by decide) (total_headerBytes_lt h)
  have hpad : (padStart 6 (octal (total (headerBytes n)))).length = 6 := by
    simp only [padStart, length_append, length_replicate]; omega
  have hfield : padStart 6 (octal (total (headerBytes n))) ++ [0, 32] = checksumField n := by
    simp [padStart, checksumField, octalField, append_assoc]
  refine except_bind_ok (headerWithoutChecksum_ok h) (require_bind_ok hpad ?_)
  rw [hfield]; exact writeTarText_ok (by rw [length_checksumField h])

/-- The header of a regular file of that length, which only root can read. -/
def requestHeader (n : ℕ) : Header where
  path := utf8 managedBootstrapRequestTarPath
  mode := 0o400
  uid := 0
  gid := 0
  size := n
  mtime := 0
  kind := .regular
  linkName := []
  uname := utf8 "root"
  gname := utf8 "root"

def headerBlock (n : ℕ) : Bytes := write (headerBytes n) 148 (checksumField n)

lemma length_headerBlock (h : n < 8 ^ 11) : (headerBlock n).length = 512 := by
  have hfield := length_checksumField h
  have hbytes := length_headerBytes h
  rw [headerBlock, length_write (by omega), hbytes]

/-- The checksum stands between two parts of the header. -/
lemma slice_headerBlock (h : n < 8 ^ 11) {offset length : ℕ}
    (hapart : offset + length ≤ 148 ∨ 156 ≤ offset) :
    slice (headerBlock n) offset length = slice (headerBytes n) offset length := by
  have hfield := length_checksumField h
  have hbytes := length_headerBytes h
  exact slice_write_apart (by omega) (by omega)

lemma checksum_headerBlock (h : n < 8 ^ 11) :
    checksum (headerBlock n) = total (headerBytes n) := by
  have hfield := length_checksumField h
  have hbytes := length_headerBytes h
  have hspaces : spaces.length = 8 := rfl
  have hslice : slice (headerBytes n) 148 spaces.length = spaces :=
    slice_headerBytes h (i := 6) rfl rfl (by decide)
  rw [checksum, headerBlock, write_write (by omega) (by omega), write_slice hslice]

lemma readText_headerBlock (h : n < 8 ^ 11) {i k offset length : ℕ} {part : Bytes}
    (hpart : (headerParts n)[i]? = some (offset, part))
    (hextent : headerExtents[i]? = some (offset, length))
    (hapart : ∀ e ∈ headerExtents.drop (i + 1), offset + length ≤ e.1 ∨ e.1 + e.2 ≤ offset)
    (hfill : ∀ e ∈ headerExtents, offset + length + k ≤ e.1 ∨ e.1 + e.2 ≤ offset + length)
    (hfit : offset + length + k ≤ 512)
    (hchecksum : offset + (length + k) ≤ 148 ∨ 156 ≤ offset) (htext : 0 ∉ part) :
    readText (slice (headerBlock n) offset (length + k)) = part := by
  rw [slice_headerBlock h hchecksum, slice_add, slice_headerBytes h hpart hextent hapart,
    slice_headerBytes_zero h hfit hfill]
  exact readText_fill htext k

lemma readHeader_headerBlock (h : n < 8 ^ 11) :
    readHeader (headerBlock n) = some (requestHeader n) := by
  have hfield := length_checksumField h
  have hbytes := length_headerBytes h
  have hsum : readOctal (slice (headerBlock n) 148 8) = some (total (headerBytes n)) := by
    have hslice : slice (headerBlock n) 148 (checksumField n).length = checksumField n :=
      slice_write (by omega)
    rw [hfield] at hslice
    rw [hslice, checksumField, octalField, append_assoc]
    exact readOctal_padded _ _ (by simp) (by simp)
  have hmagic : slice (headerBlock n) 257 8 = magic := by
    rw [slice_headerBlock h (by decide), slice_add _ 257 6 2,
      slice_headerBytes h (i := 8) rfl rfl (by decide),
      slice_headerBytes h (i := 9) rfl rfl (by decide)]
    decide +kernel
  have hmode : slice (headerBlock n) 100 8 = octalField 7 0o400 :=
    (slice_headerBlock h (by decide)).trans (slice_headerBytes h (i := 1) rfl rfl (by decide))
  have huid : slice (headerBlock n) 108 8 = octalField 7 0 :=
    (slice_headerBlock h (by decide)).trans (slice_headerBytes h (i := 2) rfl rfl (by decide))
  have hgid : slice (headerBlock n) 116 8 = octalField 7 0 :=
    (slice_headerBlock h (by decide)).trans (slice_headerBytes h (i := 3) rfl rfl (by decide))
  have hsize : slice (headerBlock n) 124 12 = octalField 11 n :=
    (slice_headerBlock h (by decide)).trans (slice_headerBytes h (i := 4) rfl rfl (by decide))
  have hmtime : slice (headerBlock n) 136 12 = octalField 11 0 :=
    (slice_headerBlock h (by decide)).trans (slice_headerBytes h (i := 5) rfl rfl (by decide))
  have hflag : slice (headerBlock n) 156 1 = [48] :=
    (slice_headerBlock h (by decide)).trans (slice_headerBytes h (i := 7) rfl rfl (by decide))
  have hname : readText (slice (headerBlock n) 0 100) = utf8 managedBootstrapRequestTarPath :=
    readText_headerBlock h (i := 0) (k := 53) rfl rfl (by decide) (by decide) (by decide)
      (by decide) (by decide +kernel)
  have huname : readText (slice (headerBlock n) 265 32) = utf8 "root" :=
    readText_headerBlock h (i := 10) (k := 28) rfl rfl (by decide) (by decide) (by decide)
      (by decide) (by decide +kernel)
  have hgname : readText (slice (headerBlock n) 297 32) = utf8 "root" :=
    readText_headerBlock h (i := 11) (k := 28) rfl rfl (by decide) (by decide) (by decide)
      (by decide) (by decide +kernel)
  have hempty : ∀ k, readText (List.replicate k 0) = [] := readText_fill (not_mem_nil)
  have hlink : readText (slice (headerBlock n) 157 100) = [] := by
    rw [slice_headerBlock h (by decide), slice_headerBytes_zero h (by decide) (by decide), hempty]
  have hdirectories : readText (slice (headerBlock n) 345 155) = [] := by
    rw [slice_headerBlock h (by decide), slice_headerBytes_zero h (by decide) (by decide), hempty]
  unfold readHeader
  rw [hsum, checksum_headerBlock h, hmagic, hmode, huid, hgid, hsize, hmtime, hname, huname, hgname,
    hlink, hdirectories, getD_of_slice hflag]
  simp only [readOctal_octalField, guard, if_true, Option.pure_def, Option.bind_eq_bind,
    Option.bind_some]
  rfl

end Header

lemma length_utf8 (text : String) : (utf8 text).length = byteLength text := by
  have hgo : ∀ cs : List Char, (cs.flatMap String.utf8EncodeChar).length = String.utf8Len cs := by
    intro cs
    induction cs with
    | nil => rfl
    | cons c cs ih =>
      rw [flatMap_cons, length_append, ih, String.length_utf8EncodeChar,
        String.utf8Len_cons, Nat.add_comm]
  rw [utf8, hgo, ← String.utf8ByteSize_ofList, String.ofList_toList]; rfl

lemma fromUtf8_utf8 (text : String) : fromUtf8 (utf8 text) = text := by
  have hlength : text.toList.length ≤ (utf8 text).length := by
    unfold utf8
    induction text.toList with
    | nil => exact Nat.le_refl 0
    | cons c cs ih =>
      have hpos := length_pos_iff.mpr (String.utf8EncodeChar_ne_nil (c := c))
      rw [flatMap_cons, length_append, length_cons]; omega
  unfold fromUtf8
  unfold utf8 at hlength ⊢
  rw [JsonText.decodeUtf8_encode _ hlength, String.ofList_toList]

lemma archive_eq {header payload : Bytes} {p : ℕ} (hheader : header.length = 512)
    (hp : payload.length ≤ p) :
    write (write (List.replicate (512 + p + 1024) 0) 0 header) 512 payload =
      header ++ payload ++ List.replicate (p - payload.length) 0 ++ List.replicate 1024 0 := by
  have hcount : 512 + p + 1024 - (0 + header.length) = p + 1024 := by omega
  have hrest : p + 1024 - payload.length = p - payload.length + 1024 := by omega
  have hfirst : write (List.replicate (512 + p + 1024) 0) 0 header =
      header ++ List.replicate (p + 1024) 0 := by
    rw [write, take_zero, nil_append, drop_replicate, hcount]
  rw [hfirst, write, take_left' hheader, ← hheader, drop_length_add_append,
    drop_replicate, hrest, ← replicate_append_replicate, append_assoc, append_assoc,
    append_assoc]

lemma blocks_spec (size : ℕ) : size ≤ blocks size ∧ blocks size < size + 512 := by
  unfold blocks; omega

section Envelope

variable {P : Type} {profiles : Profiles P} {bootstrapIdentity text : String}
  {rootApplyRequest : ManagedStartupRootApplyRequest}

lemma serializeEnvelope_inv
    (h : serializeManagedBootstrapEnvelope profiles bootstrapIdentity rootApplyRequest = .ok text) :
    isLowerHexOf 64 bootstrapIdentity ∧ ∃ request,
      serializeManagedStartupRootApplyRequest profiles rootApplyRequest = .ok request ∧
      text = envelopeText bootstrapIdentity (toBase64 (utf8 request)) ∧
      byteLength text ≤ managedBootstrapEnvelopeMaxBytes := by
  obtain ⟨hhex, h⟩ := require_bind_inv h
  obtain ⟨request, hrequest, h⟩ := except_bind_inv h
  obtain ⟨hlength, h⟩ := require_bind_inv h
  cases h; exact ⟨hhex, request, hrequest, rfl, hlength⟩

def envelopeFields (bootstrapIdentity requestB64 : String) : List Written :=
  [⟨"bootstrapIdentity", quote bootstrapIdentity, .str bootstrapIdentity⟩,
    ⟨"rootApplyRequestB64", quote requestB64, .str requestB64⟩, ⟨"schemaVersion", "1", .num 1⟩]

lemma parseJson_envelopeText (bootstrapIdentity requestB64 : String) :
    parseJson (envelopeText bootstrapIdentity requestB64) =
      some (Written.object (envelopeFields bootstrapIdentity requestB64)) := by
  have htext : envelopeText bootstrapIdentity requestB64 =
      Written.objectText (envelopeFields bootstrapIdentity requestB64) ++ "\n" := rfl
  rw [htext]
  refine parseJson_objectText ?_ (by simp [envelopeFields]) rfl
  intro field hfield depth
  simp only [envelopeFields, mem_cons, not_mem_nil, or_false] at hfield
  rcases hfield with rfl | rfl | rfl
  · exact reads_quote _
  · exact reads_quote _
  · exact reads_one

lemma readEnvelopeRecord_fields {requestB64 : String}
    (hhex : isLowerHexOf 64 bootstrapIdentity)
    (hstandard : Base64.isStandard requestB64.toList) :
    readEnvelopeRecord (Written.object (envelopeFields bootstrapIdentity requestB64)) =
      some (bootstrapIdentity, requestB64) := by
  have hkeys : hasExactKeys (Written.object (envelopeFields bootstrapIdentity requestB64))
      ["bootstrapIdentity", "rootApplyRequestB64", "schemaVersion"] := by
    exact beq_self_eq_true _
  have hversion : readInteger ((Written.object
      (envelopeFields bootstrapIdentity requestB64)).get? "schemaVersion") = some 1 := rfl
  have hidentity : readString ((Written.object
      (envelopeFields bootstrapIdentity requestB64)).get? "bootstrapIdentity") =
        some bootstrapIdentity := rfl
  have hrequest : readString ((Written.object
      (envelopeFields bootstrapIdentity requestB64)).get? "rootApplyRequestB64") =
        some requestB64 := rfl
  unfold readEnvelopeRecord
  rw [hkeys, hversion, hidentity, hrequest]; simp [guard, hhex, hstandard]

lemma nul_notMem_quote (s : String) : '\x00' ∉ (quote s).toList := by
  have hescape : ∀ c, '\x00' ∉ escapeChar c := by
    intro c
    unfold escapeChar
    split_ifs
    all_goals try decide
    · next hcontrol =>
      generalize c.toNat = n at hcontrol
      interval_cases n <;> decide
    · next hcontrol =>
      rw [mem_singleton]
      rintro rfl; exact hcontrol (by decide)
  rw [toList_quote]; simp [hescape]

lemma nul_notMem_envelopeText (bootstrapIdentity requestB64 : String) :
    '\x00' ∉ (envelopeText bootstrapIdentity requestB64).toList := by
  have hidentity := nul_notMem_quote bootstrapIdentity
  have hrequest := nul_notMem_quote requestB64
  have hkeys : '\x00' ∉ (quote "bootstrapIdentity").toList ∧
      '\x00' ∉ (quote "rootApplyRequestB64").toList ∧ '\x00' ∉ (quote "schemaVersion").toList :=
    ⟨nul_notMem_quote _, nul_notMem_quote _, nul_notMem_quote _⟩
  simp only [envelopeText, objectText, map_cons, map_nil, String.intercalate_cons_cons,
    String.intercalate_singleton, String.toList_append, mem_append, not_or]
  simp [hidentity, hrequest, hkeys]

lemma parse_serializeEnvelope
    (h : serializeManagedBootstrapEnvelope profiles bootstrapIdentity rootApplyRequest = .ok text) :
    parseManagedBootstrapEnvelope profiles text =
      .ok ⟨1, bootstrapIdentity, rootApplyRequest⟩ := by
  obtain ⟨hhex, request, hrequest, rfl, hlength⟩ := serializeEnvelope_inv h
  have hne : envelopeText bootstrapIdentity (toBase64 (utf8 request)) ≠ "" := by
    intro hempty
    have htext := congrArg String.length hempty; simp [envelopeText] at htext
  have hb64 : (toBase64 (utf8 request)).toList = Base64.encode (utf8 request) :=
    String.toList_ofList
  have hstandard : Base64.isStandard (toBase64 (utf8 request)).toList :=
    hb64 ▸ Base64.isStandard_encode _
  have hbytes : Base64.decode (toBase64 (utf8 request)).toList = utf8 request :=
    hb64 ▸ Base64.decode_encode _
  have hparse : parseManagedStartupRootApplyRequest profiles (fromUtf8 (utf8 request)) =
      .ok rootApplyRequest := by
    rw [fromUtf8_utf8]; exact parse_serialize hrequest
  unfold parseManagedBootstrapEnvelope
  rw [parseJson_envelopeText]
  refine require_bind_ok (nul_notMem_envelopeText _ _) (require_bind_ok ⟨hne, hlength⟩ ?_)
  refine except_bind_ok rfl (require_bind_ok rfl ?_)
  rw [readEnvelopeRecord_fields hhex hstandard]
  refine except_bind_ok rfl (require_bind_ok (by rw [hbytes]) ?_)
  simp only [hbytes]
  exact except_bind_ok hparse (except_bind_ok h (require_bind_ok rfl rfl))

lemma read_serializeTar
    (h : serializeManagedBootstrapEnvelope profiles bootstrapIdentity rootApplyRequest = .ok text) :
    ∃ archive, serializeManagedBootstrapEnvelopeTar profiles bootstrapIdentity rootApplyRequest =
        .ok archive ∧
      Ustar.read archive = some [⟨requestHeader (utf8 text).length, utf8 text⟩] := by
  obtain ⟨-, -, -, -, hlength⟩ := serializeEnvelope_inv h
  have hn : (utf8 text).length < 8 ^ 11 := by
    rw [length_utf8]
    have hmax : managedBootstrapEnvelopeMaxBytes < 8 ^ 11 := by decide
    omega
  have hblocks := blocks_spec (utf8 text).length
  refine ⟨_, except_bind_ok h (except_bind_ok (tarHeader_ok hn) rfl), ?_⟩
  have harchive := archive_eq (length_headerBlock hn) hblocks.1
  have hzero : ∃ b ∈ headerBlock (utf8 text).length, b ≠ 0 := by
    have hflag : slice (headerBlock (utf8 text).length) 156 1 = [48] :=
      (slice_headerBlock hn (by decide)).trans (slice_headerBytes hn (i := 7) rfl rfl (by decide))
    refine ⟨48, ?_, by decide⟩
    have hmem : (48 : UInt8) ∈ slice (headerBlock (utf8 text).length) 156 1 := by
      rw [hflag]; exact mem_singleton_self _
    exact mem_of_mem_drop (mem_of_mem_take hmem)
  refine (congrArg Ustar.read harchive).trans ?_
  refine read_single (length_headerBlock hn) (readHeader_headerBlock hn) rfl rfl ?_ hzero
  show (utf8 text).length + (List.replicate _ _).length = blocks (utf8 text).length
  rw [length_replicate]; omega

end Envelope

/-- Whenever an envelope is sent, its archive is read as one regular file that only root can
read, with the envelope as content, and the content as the identity and the request. -/
theorem serializeManagedBootstrapEnvelopeTar_reads {P : Type} (profiles : Profiles P)
    (bootstrapIdentity : String) (rootApplyRequest : ManagedStartupRootApplyRequest) :
    (serializeManagedBootstrapEnvelopeTar profiles bootstrapIdentity rootApplyRequest).map
        Ustar.read =
      (serializeManagedBootstrapEnvelope profiles bootstrapIdentity rootApplyRequest).map
        (fun text => some [⟨requestHeader (utf8 text).length, utf8 text⟩]) ∧
    (serializeManagedBootstrapEnvelope profiles bootstrapIdentity rootApplyRequest >>= fun text =>
        parseManagedBootstrapEnvelope profiles (fromUtf8 (utf8 text))) =
      (serializeManagedBootstrapEnvelope profiles bootstrapIdentity rootApplyRequest).map
        fun _ => ⟨1, bootstrapIdentity, rootApplyRequest⟩ := by
  cases h : serializeManagedBootstrapEnvelope profiles bootstrapIdentity rootApplyRequest with
  | error message =>
    refine ⟨?_, rfl⟩
    unfold serializeManagedBootstrapEnvelopeTar
    rw [h]; rfl
  | ok text =>
    obtain ⟨archive, harchive, hread⟩ := read_serializeTar h
    constructor
    · simp only [harchive, Except.map, hread]
    have hparse : parseManagedBootstrapEnvelope profiles (fromUtf8 (utf8 text)) =
        .ok ⟨1, bootstrapIdentity, rootApplyRequest⟩ := by
      rw [fromUtf8_utf8]; exact parse_serializeEnvelope h
    exact except_bind_ok rfl hparse

end NemoClaw.BootstrapEnvelope
