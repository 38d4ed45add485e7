import Mathlib.Data.List.TakeWhile
import NemoClaw.Lib.AddressText

/- Reading IPv4 and IPv6 texts, and writing an IPv6 address in one way.

An address is eight groups of sixteen bits; an IPv4 address has the groups of the IPv6
address that it is mapped to, so one comparison of leading bits serves the subnets of both
families. The groups are written in lower-case hex without leading zeros, and the first
longest run of two zero groups or more is left out.

What is provided:
  1. `readAddress`, `writeGroups` — reading a text of either family, writing groups.
  2. `Subnet.holds` — the addresses of a subnet.
  3. `readGroups_writeGroups` — what is written is read back.
-/
namespace IpAddress

open Js AddressText List Option

/-! ## Reading -/

/-- A number of a dotted quad, without leading zeros. -/
def readOctet (cs : List Char) : Option ℕ :=
  if cs ≠ [] ∧ cs.length ≤ 3 ∧ cs.all isDigit ∧ (cs.head? = some '0' → cs.length = 1) ∧
      natOfDigits cs ≤ 255 then
    some (natOfDigits cs)
  else none

/-- The two groups of a dotted quad. -/
def readQuad (cs : List Char) : Option (List ℕ) :=
  match (cs.splitOn '.').mapM readOctet with
  | some [a, b, c, d] => some [256 * a + b, 256 * c + d]
  | _ => none

def readHextet (cs : List Char) : Option ℕ :=
  if cs ≠ [] ∧ cs.length ≤ 4 ∧ cs.all isHex then some (natOfHex cs) else none

def readLast : List (List Char) → Option (List ℕ)
  | [] => some []
  | [piece] =>
    match readHextet piece with
    | some g => some [g]
    | none => readQuad piece
  | piece :: rest =>
    match readHextet piece, readLast rest with
    | some g, some gs => some (g :: gs)
    | _, _ => none

/-- What is on either side of the first two colons. -/
def splitDouble : List Char → Option (List Char × List Char)
  | [] => none
  | [_] => none
  | c :: d :: rest =>
    if c = ':' ∧ d = ':' then some ([], rest)
    else (splitDouble (d :: rest)).map fun sides => (c :: sides.1, sides.2)

def piecesOf (cs : List Char) : List (List Char) := if cs = [] then [] else cs.splitOn ':'

def readGroups (cs : List Char) : Option (List ℕ) :=
  match splitDouble cs with
  | none =>
    match readLast (cs.splitOn ':') with
    | some gs => if gs.length = 8 then some gs else none
    | none => none
  | some (before, after) =>
    match (piecesOf before).mapM readHextet, readLast (piecesOf after) with
    | some gs, some hs =>
      if gs.length + hs.length ≤ 7 then
        some (gs ++ List.replicate (8 - (gs.length + hs.length)) 0 ++ hs)
      else none
    | _, _ => none

inductive Family where
  | v4
  | v6
  deriving DecidableEq

structure Address where
  family : Family
  groups : List ℕ
  deriving DecidableEq

/-- The groups in front of an IPv4 address. -/
def mappedStart : List ℕ := [0, 0, 0, 0, 0, 0xffff]

def isZoneChar (c : Char) : Bool := isAlphanumeric c || c ∈ ['-', '.', ':']

/-- A text of either family. An IPv6 text can have a zone after it. -/
def readAddress (cs : List Char) : Option Address :=
  match readQuad cs with
  | some gs => some ⟨.v4, mappedStart ++ gs⟩
  | none =>
    match cs.dropWhile (· ≠ '%') with
    | [] => (readGroups cs).map (⟨.v6, ·⟩)
    | _ :: zone =>
      if zone ≠ [] ∧ zone.all isZoneChar then
        (readGroups (cs.takeWhile (· ≠ '%'))).map (⟨.v6, ·⟩)
      else none

def Address.number (a : Address) : ℕ := a.groups.foldl (fun n g => 65536 * n + g) 0

structure Subnet where
  network : Address
  bits : ℕ

/-- The bits that are compared: an IPv4 address comes after the groups that it is mapped by. -/
def Subnet.compared (s : Subnet) : ℕ :=
  match s.network.family with
  | .v4 => 96 + s.bits
  | .v6 => s.bits

def Subnet.holds (s : Subnet) (a : Address) : Bool :=
  a.number / 2 ^ (128 - s.compared) = s.network.number / 2 ^ (128 - s.compared)

/-- A group without leading zeros. -/
def hexText (g : ℕ) : List Char :=
  (([g / 4096 % 16, g / 256 % 16, g / 16 % 16].dropWhile (· = 0)) ++ [g % 16]).map hexChar

def zerosAt (gs : List ℕ) (i : ℕ) : ℕ := ((gs.drop i).takeWhile (· = 0)).length

/-- Where the first longest run of zero groups begins. -/
def longestRun (gs : List ℕ) : ℕ :=
  (List.range gs.length).foldl (fun best i => if zerosAt gs best < zerosAt gs i then i else best) 0

def writePieces (gs : List ℕ) : List Char := [':'].intercalate (gs.map hexText)

def writeGroups (gs : List ℕ) : List Char :=
  let start := longestRun gs
  let zeros := zerosAt gs start
  if zeros ≤ 1 then writePieces gs
  else writePieces (gs.take start) ++ ':' :: ':' :: writePieces (gs.drop (start + zeros))

example : writeGroups [0x2001, 0xdb8, 0, 0, 1, 0, 0, 1] = "2001:db8::1:0:0:1".toList := by decide

lemma hexDigit_hexChar {n : ℕ} (h : n < 16) : hexDigit (hexChar n) = n := by
  revert n; decide

lemma isLowerHex_hexChar {n : ℕ} (h : n < 16) : isLowerHex (hexChar n) := by
  revert n; decide

lemma mem_hexText {g : ℕ} {c : Char} (h : c ∈ hexText g) : isLowerHex c := by
  obtain ⟨n, hn, rfl⟩ := mem_map.mp h
  refine isLowerHex_hexChar ?_
  rcases mem_append.mp hn with hdropped | hlast
  · have hmem := (dropWhile_sublist _).subset hdropped
    simp only [mem_cons, not_mem_nil, or_false] at hmem; omega
  · have heq := mem_singleton.mp hlast; omega

lemma hexText_ne_nil (g : ℕ) : hexText g ≠ [] := by simp [hexText]

lemma length_hexText (g : ℕ) : (hexText g).length ≤ 4 := by
  have hdropped := (dropWhile_sublist (· = 0) (l := [g / 4096 % 16, g / 256 % 16,
    g / 16 % 16])).length_le
  simp only [hexText, length_map, length_append, length_singleton]
  simp only [length_cons, length_nil] at hdropped; omega

lemma foldl_dropWhile_zero (ds : List ℕ) :
    (ds.dropWhile (· = 0)).foldl (fun n d => 16 * n + d) 0 =
      ds.foldl (fun n d => 16 * n + d) 0 := by
  induction ds with
  | nil => rfl
  | cons d ds ih =>
    by_cases hd : d = 0
    · rw [dropWhile_cons_of_pos (by simpa using hd), ih, foldl_cons, hd]
    · rw [dropWhile_cons_of_neg (by simpa using hd)]

lemma natOfHex_map_hexChar {ds : List ℕ} (h : ∀ d ∈ ds, d < 16) :
    natOfHex (ds.map hexChar) = ds.foldl (fun n d => 16 * n + d) 0 := by
  rw [natOfHex, foldl_map]
  refine foldl_ext _ _ _ fun n d hd => ?_
  rw [hexDigit_hexChar (h d hd)]

lemma natOfHex_hexText {g : ℕ} (h : g < 65536) : natOfHex (hexText g) = g := by
  rw [hexText, natOfHex_map_hexChar, foldl_append, foldl_dropWhile_zero]
  · simp only [foldl_cons, foldl_nil]; omega
  intro d hd
  rcases mem_append.mp hd with hdropped | hlast
  · have hmem := (dropWhile_sublist _).subset hdropped
    simp only [mem_cons, not_mem_nil, or_false] at hmem; omega
  · have heq := mem_singleton.mp hlast; omega

lemma readHextet_hexText {g : ℕ} (h : g < 65536) : readHextet (hexText g) = some g := by
  unfold readHextet
  rw [if_pos, natOfHex_hexText h]
  refine ⟨hexText_ne_nil g, length_hexText g, all_eq_true.mpr fun c hc => ?_⟩
  exact isHex_of_isLowerHex (mem_hexText hc)

lemma colon_notMem_hexText (g : ℕ) : ':' ∉ hexText g := by
  intro hmem
  have hhex := mem_hexText hmem
  revert hhex; decide

variable {gs : List ℕ} {cs : List Char}

lemma mapM_readHextet (h : ∀ g ∈ gs, g < 65536) : (gs.map hexText).mapM readHextet = some gs := by
  induction gs with
  | nil => rfl
  | cons g gs ih =>
    rw [map_cons, mapM_cons, readHextet_hexText (h g (by simp)),
      ih fun g' hg' => h g' (by simp [hg'])]
    rfl

lemma readLast_map_hexText (h : ∀ g ∈ gs, g < 65536) : readLast (gs.map hexText) = some gs := by
  induction gs with
  | nil => rfl
  | cons g gs ih =>
    have hg := readHextet_hexText (h g (by simp))
    have hrest := ih fun g' hg' => h g' (by simp [hg'])
    cases gs with
    | nil => simp [readLast, hg]
    | cons g' gs => rw [map_cons] at hrest; simp [readLast, hg, hrest]

lemma splitOn_writePieces (hne : gs ≠ []) : (writePieces gs).splitOn ':' = gs.map hexText := by
  refine splitOn_intercalate ':' ?_ (by simpa using hne)
  intro piece hpiece
  obtain ⟨g, -, rfl⟩ := mem_map.mp hpiece; exact colon_notMem_hexText g

lemma writePieces_cons (g g' : ℕ) (gs : List ℕ) :
    writePieces (g :: g' :: gs) = hexText g ++ ':' :: writePieces (g' :: gs) := by
  simp [writePieces, intercalate_cons_cons]

lemma exists_writePieces (g : ℕ) (gs : List ℕ) :
    ∃ c rest, writePieces (g :: gs) = c :: rest ∧ c ≠ ':' := by
  obtain ⟨c, cs, htext⟩ := exists_cons_of_ne_nil (hexText_ne_nil g)
  have hc : c ≠ ':' := by
    rintro rfl; exact colon_notMem_hexText g (htext ▸ mem_cons_self)
  cases gs with
  | nil => exact ⟨c, cs, by simp [writePieces, htext], hc⟩
  | cons g' gs =>
    refine ⟨c, cs ++ ':' :: writePieces (g' :: gs), ?_, hc⟩
    rw [writePieces_cons, htext, cons_append]

lemma piecesOf_writePieces (gs : List ℕ) : piecesOf (writePieces gs) = gs.map hexText := by
  cases gs with
  | nil => rfl
  | cons g gs =>
    obtain ⟨c, rest, htext, -⟩ := exists_writePieces g gs
    rw [piecesOf, if_neg (by simp [htext]), splitOn_writePieces (by simp)]

lemma splitDouble_cons {c : Char} (hc : c ≠ ':') (cs : List Char) :
    splitDouble (c :: cs) = (splitDouble cs).map fun sides => (c :: sides.1, sides.2) := by
  cases cs with
  | nil => rfl
  | cons d rest => rw [splitDouble, if_neg (by simp [hc])]

lemma splitDouble_colon {d : Char} (hd : d ≠ ':') (cs : List Char) :
    splitDouble (':' :: d :: cs) =
      (splitDouble (d :: cs)).map fun sides => (':' :: sides.1, sides.2) := by
  rw [splitDouble, if_neg (by simp [hd])]

lemma splitDouble_append (h : ':' ∉ cs) (rest : List Char) :
    splitDouble (cs ++ rest) =
      (splitDouble rest).map fun sides => (cs ++ sides.1, sides.2) := by
  induction cs with
  | nil => simp
  | cons c cs ih =>
    have hc : c ≠ ':' := fun heq => h (heq ▸ mem_cons_self)
    rw [cons_append, splitDouble_cons hc, ih fun hmem => h (mem_cons_of_mem _ hmem),
      Option.map_map]
    rfl

/-- No two colons follow each other in a text of groups, nor is one at its end. -/
lemma splitDouble_writePieces (gs : List ℕ) (rest : List Char) :
    splitDouble (writePieces gs ++ rest) =
      (splitDouble rest).map fun sides => (writePieces gs ++ sides.1, sides.2) := by
  induction gs with
  | nil => simp [writePieces]
  | cons g gs ih =>
    cases gs with
    | nil =>
      have hone : writePieces [g] = hexText g := by simp [writePieces]
      rw [hone, splitDouble_append (colon_notMem_hexText g)]
    | cons g' gs =>
      obtain ⟨c, cs, htext, hc⟩ := exists_writePieces g' gs
      rw [htext] at ih
      rw [writePieces_cons, htext, append_assoc, splitDouble_append (colon_notMem_hexText g),
        cons_append, cons_append, splitDouble_colon hc, ← cons_append, ih,
        Option.map_map, Option.map_map]
      simp [Function.comp_def]

lemma drop_length_takeWhile (p : ℕ → Bool) (gs : List ℕ) :
    gs.drop (gs.takeWhile p).length = gs.dropWhile p := by
  induction gs with
  | nil => rfl
  | cons g gs ih =>
    cases hg : p g with
    | true => simpa [takeWhile_cons_of_pos hg, dropWhile_cons_of_pos hg] using ih
    | false => simp [hg]

lemma take_zeros_drop (gs : List ℕ) (i : ℕ) :
    gs.take i ++ List.replicate (zerosAt gs i) 0 ++ gs.drop (i + zerosAt gs i) = gs := by
  have hzeros : (gs.drop i).takeWhile (· = 0) = List.replicate (zerosAt gs i) 0 :=
    eq_replicate_of_mem fun g hg => by simpa using mem_takeWhile_imp hg
  have hrest : gs.drop (i + zerosAt gs i) = (gs.drop i).dropWhile (· = 0) := by
    rw [← drop_drop]; exact drop_length_takeWhile _ _
  rw [hrest, ← hzeros, append_assoc, takeWhile_append_dropWhile, take_append_drop]

def WellFormed (gs : List ℕ) : Prop := gs.length = 8 ∧ ∀ g ∈ gs, g < 65536

theorem readGroups_writeGroups (h : WellFormed gs) : readGroups (writeGroups gs) = some gs := by
  obtain ⟨hlength, hbounded⟩ := h
  have hne : gs ≠ [] := by
    rintro rfl; simp at hlength
  unfold writeGroups
  simp only
  split
  · have hnone := splitDouble_writePieces gs []
    rw [append_nil] at hnone
    unfold readGroups
    rw [hnone]
    simp [splitDouble, splitOn_writePieces hne, readLast_map_hexText hbounded, hlength]
  · next hzeros =>
    generalize longestRun gs = start at hzeros ⊢
    have hwhole := take_zeros_drop gs start
    have hsum := congrArg List.length hwhole
    rw [length_append, length_append, length_replicate, hlength] at hsum
    have hsome : splitDouble (writePieces (gs.take start) ++
        ':' :: ':' :: writePieces (gs.drop (start + zerosAt gs start))) =
        some (writePieces (gs.take start), writePieces (gs.drop (start + zerosAt gs start))) := by
      rw [splitDouble_writePieces]; simp [splitDouble]
    have hbefore := mapM_readHextet fun g hg => hbounded g ((take_sublist start gs).subset hg)
    have hafter := readLast_map_hexText fun g hg =>
      hbounded g ((drop_sublist (start + zerosAt gs start) gs).subset hg)
    have hleft : 8 - ((gs.take start).length + (gs.drop (start + zerosAt gs start)).length) =
        zerosAt gs start := by omega
    unfold readGroups
    rw [hsome]
    simp only [piecesOf_writePieces, hbefore, hafter, hleft, hwhole]
    rw [if_pos (by omega)]

/-! ## What is read -/

lemma lt_of_readHextet {g : ℕ} (h : readHextet cs = some g) : g < 65536 := by
  unfold readHextet at h
  split at h
  · next hcs =>
    obtain ⟨-, hshort, hhex⟩ := hcs
    rw [← some.inj h]
    calc natOfHex cs < 16 ^ cs.length := natOfHex_lt fun c hc => all_eq_true.mp hhex c hc
      _ ≤ 16 ^ 4 := Nat.pow_le_pow_right (by decide) hshort
  · cases h

lemma of_readOctet {n : ℕ} (h : readOctet cs = some n) :
    n ≤ 255 ∧ ∀ c ∈ cs, isDigit c := by
  unfold readOctet at h
  split at h
  · next hcs =>
    obtain ⟨-, -, hdigits, -, hle⟩ := hcs
    exact ⟨some.inj h ▸ hle, fun c hc => all_eq_true.mp hdigits c hc⟩
  · cases h

lemma of_mapM {f : List Char → Option ℕ} {parts : List (List Char)} {ns : List ℕ}
    (h : parts.mapM f = some ns) :
    (∀ part ∈ parts, ∃ n, f part = some n) ∧ ∀ n ∈ ns, ∃ part ∈ parts, f part = some n := by
  induction parts generalizing ns with
  | nil =>
    obtain rfl : ns = [] := by simpa using h.symm
    simp
  | cons part parts ih =>
    rw [mapM_cons] at h
    obtain ⟨n, hn, hrest⟩ := bind_eq_some_iff.mp h
    obtain ⟨ms, hms, hcons⟩ := bind_eq_some_iff.mp hrest
    cases hcons
    obtain ⟨hparts, hnumbers⟩ := ih hms
    refine ⟨forall_mem_cons.mpr ⟨⟨n, hn⟩, hparts⟩,
      forall_mem_cons.mpr ⟨⟨part, by simp, hn⟩, fun m hm => ?_⟩⟩
    obtain ⟨p, hp, hread⟩ := hnumbers m hm
    exact ⟨p, mem_cons_of_mem _ hp, hread⟩

lemma bounded_of_mapM {parts : List (List Char)} (h : parts.mapM readHextet = some gs) :
    ∀ g ∈ gs, g < 65536 := by
  intro g hg
  obtain ⟨part, -, hread⟩ := (of_mapM h).2 g hg; exact lt_of_readHextet hread

/-- Where no piece is empty, there is no separator at either end. -/
lemma ends_of_nil_notMem {sep : Char} (h : [] ∉ cs.splitOn sep) :
    cs.head? ≠ some sep ∧ cs.getLast? ≠ some sep := by
  refine ⟨fun hhead => ?_, fun hlast => ?_⟩
  · obtain ⟨rest, rfl⟩ := List.head?_eq_some_iff.mp hhead
    have hsplit := splitOn_append_cons_self (a := sep) [] rest
    rw [nil_append, splitOn_nil] at hsplit; exact h (by simp [hsplit])
  · obtain ⟨front, rfl⟩ := List.getLast?_eq_some_iff.mp hlast
    have hsplit := splitOn_append_cons_self (a := sep) front []
    rw [splitOn_nil] at hsplit; exact h (by simp [hsplit])

lemma of_readQuad (h : readQuad cs = some gs) :
    (gs.length = 2 ∧ ∀ g ∈ gs, g < 65536) ∧ ∀ c ∈ cs, c = '.' ∨ isDigit c := by
  unfold readQuad at h
  split at h
  · next a b c d hparts =>
    cases h
    obtain ⟨hread, hnumbers⟩ := of_mapM hparts
    have hdigits : ∀ part ∈ cs.splitOn '.', ∀ c ∈ part, isDigit c := by
      intro part hpart
      obtain ⟨n, hn⟩ := hread part hpart; exact (of_readOctet hn).2
    have hle : ∀ n ∈ [a, b, c, d], n ≤ 255 := by
      intro n hn
      obtain ⟨part, -, hpart⟩ := hnumbers n hn; exact (of_readOctet hpart).1
    simp only [forall_mem_cons] at hle
    refine ⟨⟨rfl, ?_⟩, fun c hc => ?_⟩
    · simp only [forall_mem_cons, not_mem_nil, false_implies, implies_true, and_true]
      omega
    have hjoin : ['.'].intercalate (cs.splitOn '.') = cs := intercalate_splitOn '.'
    rw [← hjoin] at hc
    rcases mem_intercalate hc with hdot | ⟨part, hpart, hmem⟩
    · exact .inl hdot
    · exact .inr (hdigits part hpart c hmem)
  · cases h

lemma ends_of_readQuad (h : readQuad cs = some gs) :
    cs.head? ≠ some '.' ∧ cs.getLast? ≠ some '.' := by
  refine ends_of_nil_notMem fun hmem => ?_
  unfold readQuad at h
  split at h
  · next hparts =>
    obtain ⟨n, hn⟩ := (of_mapM hparts).1 [] hmem; simp [readOctet] at hn
  · cases h

lemma bounded_of_readLast {parts : List (List Char)} (h : readLast parts = some gs) :
    ∀ g ∈ gs, g < 65536 := by
  induction parts generalizing gs with
  | nil => cases h; simp
  | cons part parts ih =>
    cases parts with
    | nil =>
      unfold readLast at h
      split at h
      · next g hg =>
        cases h; simpa using lt_of_readHextet hg
      · exact (of_readQuad h).1.2
    | cons part' parts =>
      unfold readLast at h
      split at h
      · next g rest hg hrest =>
        cases h; exact forall_mem_cons.mpr ⟨lt_of_readHextet hg, ih hrest⟩
      · cases h

lemma wellFormed_of_readGroups (h : readGroups cs = some gs) : WellFormed gs := by
  unfold readGroups at h
  split at h
  · split at h
    · next hs hread =>
      split at h
      · next hlength =>
        cases h; exact ⟨hlength, bounded_of_readLast hread⟩
      · cases h
    · cases h
  · split at h
    · next before after _ gs' hs hbefore hafter =>
      split at h
      · next hle =>
        cases h
        refine ⟨by simp; omega, fun g hg => ?_⟩
        rcases mem_append.mp hg with hg | hg
        · rcases mem_append.mp hg with hg | hg
          · exact bounded_of_mapM hbefore g hg
          · rw [eq_of_mem_replicate hg]; decide
        · exact bounded_of_readLast hafter g hg
      · cases h
    · cases h

lemma colon_mem_of_splitDouble {sides : List Char × List Char} (h : splitDouble cs = some sides) :
    ':' ∈ cs := by
  induction cs generalizing sides with
  | nil => cases h
  | cons c cs ih =>
    cases cs with
    | nil => cases h
    | cons d rest =>
    rw [splitDouble] at h
    split at h
    · next hcolons => simp [hcolons.1]
    · obtain ⟨sides', hsides, -⟩ := map_eq_some_iff.mp h
      exact mem_cons_of_mem _ (ih hsides)

lemma colon_mem_of_readGroups (h : readGroups cs = some gs) : ':' ∈ cs := by
  by_contra hcolon
  unfold readGroups at h
  split at h
  · rw [splitOn_of_notMem hcolon] at h
    split at h
    · next hs hread =>
      have hlength : hs.length ≤ 2 := by
        unfold readLast at hread
        split at hread
        · cases hread; simp
        · exact (of_readQuad hread).1.1.le
      split at h
      · omega
      · cases h
    · cases h
  · next hsplit => exact hcolon (colon_mem_of_splitDouble hsplit)

lemma mem_writeGroups {c : Char} (h : c ∈ writeGroups gs) : c = ':' ∨ isLowerHex c := by
  have hpieces : ∀ {hs : List ℕ}, c ∈ writePieces hs → c = ':' ∨ isLowerHex c := by
    intro hs hmem
    rcases mem_intercalate hmem with hcolon | ⟨part, hpart, hc⟩
    · exact .inl hcolon
    · obtain ⟨g, -, rfl⟩ := mem_map.mp hpart; exact .inr (mem_hexText hc)
  unfold writeGroups at h
  simp only at h
  split at h
  · exact hpieces h
  rcases mem_append.mp h with hbefore | hafter
  · exact hpieces hbefore
  rcases mem_cons.mp hafter with hcolon | hafter
  · exact .inl hcolon
  · rcases mem_cons.mp hafter with hcolon | hafter
    · exact .inl hcolon
    · exact hpieces hafter

lemma colon_mem_writeGroups (h : WellFormed gs) : ':' ∈ writeGroups gs := by
  unfold writeGroups
  simp only
  split
  · match gs, h.1 with
    | g :: g' :: rest, _ => rw [writePieces_cons]; simp
  · simp

lemma readAddress_writeGroups (h : WellFormed gs) :
    readAddress (writeGroups gs) = some ⟨.v6, gs⟩ := by
  have hquad : readQuad (writeGroups gs) = none := by
    cases hread : readQuad (writeGroups gs) with
    | none => rfl
    | some quad => exact absurd ((of_readQuad hread).2 ':' (colon_mem_writeGroups h)) (by decide)
  have hzone : (writeGroups gs).dropWhile (· ≠ '%') = [] := by
    refine dropWhile_eq_nil_iff.mpr fun c hc => ?_
    rcases mem_writeGroups hc with rfl | hhex
    · decide
    simp only [decide_eq_true_eq]
    rintro rfl
    revert hhex; decide
  unfold readAddress
  rw [hquad]
  simp only
  rw [hzone]; simp [readGroups_writeGroups h]

lemma exists_readQuad {a : Address} (h : readAddress cs = some a) (hfamily : a.family = .v4) :
    ∃ gs, readQuad cs = some gs := by
  unfold readAddress at h
  split at h
  · next gs hquad => exact ⟨gs, hquad⟩
  split at h
  · obtain ⟨gs, -, rfl⟩ := map_eq_some_iff.mp h; cases hfamily
  split at h
  · obtain ⟨gs, -, rfl⟩ := map_eq_some_iff.mp h; cases hfamily
  · cases h

lemma colon_mem_of_readAddress {a : Address} (h : readAddress cs = some a)
    (hfamily : a.family = .v6) : ':' ∈ cs := by
  unfold readAddress at h
  split at h
  · cases h; cases hfamily
  split at h
  · obtain ⟨gs, hgs, -⟩ := map_eq_some_iff.mp h
    exact colon_mem_of_readGroups hgs
  split at h
  · obtain ⟨gs, hgs, -⟩ := map_eq_some_iff.mp h
    exact (takeWhile_sublist _).subset (colon_mem_of_readGroups hgs)
  · cases h

lemma of_readAddress_v6 {a : Address} (h : readAddress cs = some a) (hfamily : a.family = .v6)
    (hzone : '%' ∉ cs) :
    readGroups cs = some a.groups ∧ readAddress (writeGroups a.groups) = some a := by
  have hnone : cs.dropWhile (· ≠ '%') = [] := by
    refine dropWhile_eq_nil_iff.mpr fun c hc => ?_
    simp only [decide_eq_true_eq]
    rintro rfl; exact hzone hc
  unfold readAddress at h
  split at h
  · cases h; cases hfamily
  · simp only [hnone] at h; obtain ⟨gs, hgs, rfl⟩ := map_eq_some_iff.mp h
    exact ⟨hgs, readAddress_writeGroups (wellFormed_of_readGroups hgs)⟩

end IpAddress
