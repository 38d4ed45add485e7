import Mathlib.Data.Nat.Digits.Lemmas
import Mathlib.Tactic

/- Archives in the POSIX ustar format, as they are read.

An archive is a row of blocks of 512 bytes: for every file a header and the blocks of its
content, and two blocks of zeros at the end. A header has text fields, which end at a NUL,
and octal fields, whose digits end at a NUL or a space. Its checksum is the sum of its
bytes, those of the checksum field taken as spaces.

What is provided:
  1. `slice` and `write` — parts of a row of bytes, and what is read of a part behind a
     write.
  2. `octal` and `readOctal`.
  3. `readHeader`, and `read`, the files of an archive.
  4. `read_single` — the files of an archive that has one header and its content.
-/
namespace Ustar

open List

abbrev Bytes := List UInt8

def slice (bytes : Bytes) (offset length : ℕ) : Bytes := (bytes.drop offset).take length

def write (bytes : Bytes) (offset : ℕ) (part : Bytes) : Bytes :=
  bytes.take offset ++ part ++ bytes.drop (offset + part.length)

section Write

variable {bytes part : Bytes} {offset : ℕ}

section

variable (h : offset + part.length ≤ bytes.length)
include h

@[simp] lemma length_write : (write bytes offset part).length = bytes.length := by
  simp only [write, length_append, length_take, length_drop]; omega

lemma slice_write : slice (write bytes offset part) offset part.length = part := by
  have htake : (bytes.take offset).length = offset := length_take_of_le (by omega)
  rw [slice, write, append_assoc, drop_left' htake, take_left]

lemma slice_write_apart {o n : ℕ} (hapart : o + n ≤ offset ∨ offset + part.length ≤ o) :
    slice (write bytes offset part) o n = slice bytes o n := by
  refine ext_getElem? fun i => ?_
  simp only [slice, write, List.getElem?_take, List.getElem?_drop, append_assoc]
  split
  · rcases hapart with hbefore | hbehind
    · rw [List.getElem?_append_left (by rw [length_take]; omega),
        List.getElem?_take_of_lt (by omega)]
    · have htake : (bytes.take offset).length = offset := length_take_of_le (by omega)
      rw [List.getElem?_append_right (by omega), htake,
        List.getElem?_append_right (by omega), List.getElem?_drop]
      congr 1; omega
  · rfl

lemma write_write {part' : Bytes} (hlength : part'.length = part.length) :
    write (write bytes offset part) offset part' = write bytes offset part' := by
  have htake : (bytes.take offset).length = offset := length_take_of_le (by omega)
  have hboth : (bytes.take offset ++ part).length = offset + part.length := by
    rw [length_append, htake]
  have hhead : (write bytes offset part).take offset = bytes.take offset := by
    rw [write, append_assoc, take_left' htake]
  have htail : (write bytes offset part).drop (offset + part.length) =
      bytes.drop (offset + part.length) := drop_left' hboth
  rw [write, hlength, hhead, htail, write, hlength]

end

lemma write_slice (h : slice bytes offset part.length = part) :
    write bytes offset part = bytes := by
  unfold write
  rw [← drop_drop]
  nth_rewrite 1 [← h]
  rw [slice, append_assoc, take_append_drop, take_append_drop]

end Write

/-- Parts written one after the other, each at its offset. -/
def writeAll (bytes : Bytes) (parts : List (ℕ × Bytes)) : Bytes :=
  parts.foldl (fun bytes part => write bytes part.1 part.2) bytes

/-- Where parts stand, and how long they are. -/
def extents (parts : List (ℕ × Bytes)) : List (ℕ × ℕ) :=
  parts.map fun part => (part.1, part.2.length)

section WriteAll

variable {bytes : Bytes} {parts : List (ℕ × Bytes)}

lemma length_writeAll (h : ∀ e ∈ extents parts, e.1 + e.2 ≤ bytes.length) :
    (writeAll bytes parts).length = bytes.length := by
  induction parts generalizing bytes with
  | nil => rfl
  | cons part parts ih =>
    obtain ⟨hpart, hparts⟩ := forall_mem_cons.mp h
    have hlength := @length_write bytes part.2 _ hpart
    rw [← hlength] at hparts; exact (ih hparts).trans hlength

lemma slice_writeAll_apart {o n : ℕ} (h : ∀ e ∈ extents parts, e.1 + e.2 ≤ bytes.length)
    (hapart : ∀ e ∈ extents parts, o + n ≤ e.1 ∨ e.1 + e.2 ≤ o) :
    slice (writeAll bytes parts) o n = slice bytes o n := by
  induction parts generalizing bytes with
  | nil => rfl
  | cons part parts ih =>
    obtain ⟨hpart, hparts⟩ := forall_mem_cons.mp h
    obtain ⟨hfirst, hrest⟩ := forall_mem_cons.mp hapart
    have hlength := @length_write bytes part.2 _ hpart
    rw [← hlength] at hparts; exact (ih hparts hrest).trans (slice_write_apart hpart hfirst)

/-- A part that the later ones are not written over is read back. -/
lemma slice_writeAll {before after : List (ℕ × Bytes)} {offset : ℕ} {part : Bytes}
    (hparts : parts = before ++ (offset, part) :: after)
    (h : ∀ e ∈ extents parts, e.1 + e.2 ≤ bytes.length)
    (hapart : ∀ e ∈ extents after, offset + part.length ≤ e.1 ∨ e.1 + e.2 ≤ offset) :
    slice (writeAll bytes parts) offset part.length = part := by
  subst hparts
  simp only [extents, map_append, map_cons, forall_mem_append,
    forall_mem_cons] at h
  obtain ⟨hbefore, hpart, hafter⟩ := h
  have hlength := length_writeAll hbefore
  rw [← hlength] at hpart hafter
  have hlength' := length_write hpart
  rw [← hlength'] at hafter
  have hsplit : writeAll bytes (before ++ (offset, part) :: after) =
      writeAll (write (writeAll bytes before) offset part) after := by
    simp only [writeAll, foldl_append, foldl_cons]
  rw [hsplit, slice_writeAll_apart hafter hapart, slice_write hpart]

lemma slice_writeAll_at {table : List (ℕ × ℕ)} {i offset length : ℕ} {part : Bytes}
    (htable : extents parts = table) (h : ∀ e ∈ table, e.1 + e.2 ≤ bytes.length)
    (hpart : parts[i]? = some (offset, part)) (hextent : table[i]? = some (offset, length))
    (hapart : ∀ e ∈ table.drop (i + 1), offset + length ≤ e.1 ∨ e.1 + e.2 ≤ offset) :
    slice (writeAll bytes parts) offset length = part := by
  subst htable
  obtain ⟨hi, hget⟩ := List.getElem?_eq_some_iff.mp hpart
  have hlength : part.length = length := by
    rw [extents, List.getElem?_map, hpart] at hextent
    exact (Prod.mk.inj (Option.some.inj hextent)).2
  have hsplit : parts = parts.take i ++ (offset, part) :: parts.drop (i + 1) := by
    rw [← hget, getElem_cons_drop, take_append_drop]
  have hafter : extents (parts.drop (i + 1)) = (extents parts).drop (i + 1) := map_drop
  rw [← hlength] at hapart ⊢; exact slice_writeAll hsplit h (hafter ▸ hapart)

end WriteAll

lemma slice_replicate {k o n : ℕ} (b : UInt8) (h : o + n ≤ k) :
    slice (List.replicate k b) o n = List.replicate n b := by
  rw [slice, drop_replicate, take_replicate, Nat.min_eq_left (by omega)]

lemma getD_of_slice {bytes : Bytes} {o : ℕ} {b : UInt8} (h : slice bytes o 1 = [b])
    (default : UInt8) : bytes.getD o default = b := by
  have hhead := congrArg List.head? h
  rw [slice, List.head?_take, if_neg (by decide), List.head?_drop] at hhead
  rw [getD_eq_getElem?_getD, hhead]; rfl

lemma slice_add (bytes : Bytes) (offset m n : ℕ) :
    slice bytes offset (m + n) = slice bytes offset m ++ slice bytes (offset + m) n := by
  rw [slice, take_add, drop_drop]; rfl

def readText (field : Bytes) : Bytes := field.takeWhile (· ≠ 0)

lemma readText_fill {text : Bytes} (h : 0 ∉ text) (k : ℕ) :
    readText (text ++ List.replicate k 0) = text := by
  have htext : ∀ b ∈ text, decide (b ≠ 0) := by
    intro b hb; exact decide_eq_true fun hzero => h (hzero ▸ hb)
  rw [readText, takeWhile_append_of_pos htext]
  cases k with
  | zero => simp
  | succ k => simp [replicate_succ]

def isOctal (b : UInt8) : Bool := 48 ≤ b && b ≤ 55

def digitValue (b : UInt8) : ℕ := b.toNat - 48

/-- The digits end at a NUL or a space, and nothing else stands behind them. -/
def readOctal (field : Bytes) : Option ℕ :=
  let digits := field.takeWhile isOctal
  let rest := field.dropWhile isOctal
  if digits ≠ [] ∧ rest ≠ [] ∧ rest.all (fun b => b = 0 || b = 32) then
    some (Nat.ofDigits 8 (digits.reverse.map digitValue))
  else none

/-- The octal digits of a number, at least one. -/
def octal (n : ℕ) : Bytes :=
  if n = 0 then [48] else (Nat.digits 8 n).reverse.map fun d => UInt8.ofNat (48 + d)

lemma digit_spec : ∀ d < 8, isOctal (UInt8.ofNat (48 + d)) ∧
    digitValue (UInt8.ofNat (48 + d)) = d := by
  decide

lemma isOctal_octal {n : ℕ} : ∀ b ∈ octal n, isOctal b := by
  intro b hb
  unfold octal at hb
  split at hb
  · rw [mem_singleton.mp hb]; rfl
  · obtain ⟨d, hd, rfl⟩ := mem_map.mp hb
    exact (digit_spec d (Nat.digits_lt_base (by decide) (mem_reverse.mp hd))).1

lemma ofDigits_octal (n : ℕ) : Nat.ofDigits 8 ((octal n).reverse.map digitValue) = n := by
  unfold octal
  split
  · next hzero =>
    rw [hzero]; rfl
  · rw [← map_reverse, reverse_reverse, map_map]
    have hsame : (Nat.digits 8 n).map (digitValue ∘ fun d => UInt8.ofNat (48 + d)) =
        Nat.digits 8 n := by
      refine (map_congr_left fun d hd => ?_).trans (map_id _)
      exact (digit_spec d (Nat.digits_lt_base (by decide) hd)).2
    rw [hsame, Nat.ofDigits_digits]

lemma length_octal_le {n k : ℕ} (hk : 0 < k) (h : n < 8 ^ k) : (octal n).length ≤ k := by
  unfold octal
  split
  · exact hk
  · rw [length_map, length_reverse]
    exact (Nat.digits_length_le_iff (by decide) n).mpr h

lemma readOctal_append {digits rest : Bytes} (hdigits : ∀ b ∈ digits, isOctal b)
    (hne : digits ≠ []) (hrest : ∀ b ∈ rest, b = 0 ∨ b = 32) (hend : rest ≠ []) :
    readOctal (digits ++ rest) = some (Nat.ofDigits 8 (digits.reverse.map digitValue)) := by
  obtain ⟨b, behind, rfl⟩ := exists_cons_of_ne_nil hend
  have hb : isOctal b = false := by
    rcases hrest b mem_cons_self with rfl | rfl <;> rfl
  have htake : (digits ++ b :: behind).takeWhile isOctal = digits := by
    rw [takeWhile_append_of_pos hdigits, takeWhile_cons_of_neg (by simp [hb]),
      append_nil]
  have hdrop : (digits ++ b :: behind).dropWhile isOctal = b :: behind := by
    rw [dropWhile_append_of_pos hdigits, dropWhile_cons_of_neg (by simp [hb])]
  have hall : (b :: behind).all (fun b => b = 0 || b = 32) := by
    rw [all_eq_true]
    intro c hc; simpa using hrest c hc
  simp only [readOctal, htake, hdrop]
  rw [if_pos ⟨hne, hend, hall⟩]

lemma octal_ne_nil (n : ℕ) : octal n ≠ [] := by
  unfold octal
  split
  · exact cons_ne_nil _ _
  · next hzero =>
    simpa [Nat.digits_eq_nil_iff_eq_zero] using hzero

lemma readOctal_padded (k n : ℕ) {rest : Bytes} (hrest : ∀ b ∈ rest, b = 0 ∨ b = 32)
    (hend : rest ≠ []) : readOctal (List.replicate k 48 ++ octal n ++ rest) = some n := by
  have hdigits : ∀ b ∈ List.replicate k 48 ++ octal n, isOctal b := by
    intro b hb
    rcases mem_append.mp hb with hb | hb
    · rw [eq_of_mem_replicate hb]; rfl
    · exact isOctal_octal b hb
  have hne : List.replicate k 48 ++ octal n ≠ [] :=
    fun h => octal_ne_nil n (append_eq_nil_iff.mp h).2
  rw [readOctal_append hdigits hne hrest hend, reverse_append, map_append,
    reverse_replicate, map_replicate]
  have hzero : digitValue 48 = 0 := rfl
  rw [hzero, Nat.ofDigits_append_replicate_zero, ofDigits_octal]

/-- A number in so many digits, with a NUL behind them. -/
def octalField (width n : ℕ) : Bytes :=
  List.replicate (width - (octal n).length) 48 ++ octal n ++ [0]

lemma length_octalField {width n : ℕ} (hwidth : 0 < width) (h : n < 8 ^ width) :
    (octalField width n).length = width + 1 := by
  have hlength := length_octal_le hwidth h
  simp only [octalField, length_append, length_replicate, length_singleton]
  omega

lemma readOctal_octalField (width n : ℕ) : readOctal (octalField width n) = some n :=
  readOctal_padded _ n (by simp) (cons_ne_nil _ _)

inductive Kind where
  | regular
  | hardLink
  | symbolicLink
  | characterDevice
  | blockDevice
  | directory
  | fifo
  | other (flag : UInt8)
  deriving DecidableEq

def kindOf (flag : UInt8) : Kind :=
  if flag = 48 ∨ flag = 0 then .regular
  else if flag = 49 then .hardLink
  else if flag = 50 then .symbolicLink
  else if flag = 51 then .characterDevice
  else if flag = 52 then .blockDevice
  else if flag = 53 then .directory
  else if flag = 54 then .fifo
  else .other flag

def Kind.hasContent : Kind → Bool
  | .regular | .other _ => true
  | _ => false

structure Header where
  path : Bytes
  mode : ℕ
  uid : ℕ
  gid : ℕ
  size : ℕ
  mtime : ℕ
  kind : Kind
  linkName : Bytes
  uname : Bytes
  gname : Bytes
  deriving DecidableEq

def spaces : Bytes := List.replicate 8 32

def total (block : Bytes) : ℕ := (block.map UInt8.toNat).sum

lemma total_le (block : Bytes) : total block ≤ 255 * block.length := by
  induction block with
  | nil => exact Nat.le_refl 0
  | cons b block ih =>
    have hb := b.toNat_lt
    have hcons : total (b :: block) = b.toNat + total block := rfl
    rw [hcons, length_cons]; omega

/-- What the checksum field has to say. -/
def checksum (block : Bytes) : ℕ := total (write block 148 spaces)

/-- `ustar` and its version. -/
def magic : Bytes := [117, 115, 116, 97, 114, 0, 48, 48]

def pathOf (directories name : Bytes) : Bytes :=
  if directories = [] then name else directories ++ 47 :: name

def readHeader (block : Bytes) : Option Header := do
  let sum ← readOctal (slice block 148 8)
  guard (sum = checksum block)
  guard (slice block 257 8 = magic)
  let mode ← readOctal (slice block 100 8)
  let uid ← readOctal (slice block 108 8)
  let gid ← readOctal (slice block 116 8)
  let size ← readOctal (slice block 124 12)
  let mtime ← readOctal (slice block 136 12)
  some {
    path := pathOf (readText (slice block 345 155)) (readText (slice block 0 100))
    mode, uid, gid, size, mtime
    kind := kindOf (block.getD 156 0)
    linkName := readText (slice block 157 100)
    uname := readText (slice block 265 32)
    gname := readText (slice block 297 32)
  }

structure File where
  header : Header
  content : Bytes
  deriving DecidableEq

def blocks (size : ℕ) : ℕ := (size + 511) / 512 * 512

def readFiles : ℕ → Bytes → Option (List File)
  | 0, _ => none
  | n + 1, bytes =>
    if bytes = List.replicate 1024 0 then some []
    else do
      guard (512 ≤ bytes.length)
      let header ← readHeader (bytes.take 512)
      let size := if header.kind.hasContent then header.size else 0
      guard (512 + blocks size ≤ bytes.length)
      let rest ← readFiles n (bytes.drop (512 + blocks size))
      some (⟨header, slice bytes 512 size⟩ :: rest)

/-- The files of an archive, which ends with two blocks of zeros. -/
def read (bytes : Bytes) : Option (List File) := readFiles bytes.length bytes

theorem read_single {block content fill : Bytes} {header : Header} (hblock : block.length = 512)
    (hheader : readHeader block = some header) (hkind : header.kind.hasContent)
    (hsize : header.size = content.length) (hfill : content.length + fill.length = blocks header.size)
    (hzero : ∃ b ∈ block, b ≠ 0) :
    read (block ++ content ++ fill ++ List.replicate 1024 0) = some [⟨header, content⟩] := by
  have hlength : (block ++ content ++ fill ++ List.replicate 1024 (0 : UInt8)).length =
      512 + blocks header.size + 1024 := by
    simp only [length_append, length_replicate, hblock, ← hfill, Nat.add_assoc]
  have htake : (block ++ content ++ fill ++ List.replicate 1024 (0 : UInt8)).take 512 = block := by
    rw [append_assoc, append_assoc, take_left' hblock]
  have hdrop : (block ++ content ++ fill ++ List.replicate 1024 (0 : UInt8)).drop
      (512 + blocks header.size) = List.replicate 1024 0 := by
    refine drop_left' ?_
    simp only [length_append, hblock, ← hfill, Nat.add_assoc]
  have hslice : slice (block ++ content ++ fill ++ List.replicate 1024 (0 : UInt8)) 512
      header.size = content := by
    rw [slice, append_assoc, append_assoc, drop_left' hblock, hsize,
      take_left]
  have hstart : block ++ content ++ fill ++ List.replicate 1024 (0 : UInt8) ≠
      List.replicate 1024 0 := by
    intro h
    obtain ⟨b, hb, hne⟩ := hzero
    have hmem : b ∈ block ++ content ++ fill ++ List.replicate 1024 (0 : UInt8) := by
      rw [append_assoc, append_assoc]; exact mem_append_left _ hb
    rw [h] at hmem; exact hne (eq_of_mem_replicate hmem)
  obtain ⟨n, hn⟩ : ∃ n, (block ++ content ++ fill ++ List.replicate 1024 (0 : UInt8)).length =
      n + 1 + 1 := ⟨512 + blocks header.size + 1022, by rw [hlength]⟩
  unfold read
  rw [hn, readFiles, if_neg hstart, htake, hheader]
  simp only [hkind, if_true, hdrop, hslice, hlength, readFiles, Option.bind_eq_bind,
    Option.bind_some]
  simp [guard]

end Ustar
