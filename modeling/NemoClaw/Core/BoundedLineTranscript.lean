import NemoClaw.Js.Value
import NemoClaw.Lib.Pieces

/- Lines and transcripts of a subprocess, within a bound.

The decoder keeps the end of a line that is not complete and the number of characters it
has dropped from it; the transcript keeps the beginning and the end of all that was
appended. A text is the list of its UTF-16 code units.

Correspondence (core/bounded-line-transcript.ts ↔ Lean): methods and fields keep the
source's names. `end` is `finish`, `emitted` is what `onLine` was called with, `scan` is the
loop of `consume` with `text.slice(start, index)` as its first argument. Chunks are strings:
the UTF-8 decoder is given none, and its end is the empty text.

What is proved:
  1. `boundedLineDecoder_lines` — whatever the chunks, the lines of the whole text are
     emitted, each within the bound and with the count of what was left out.
  2. `boundedTextTranscript_ends` — the transcript is the two ends of the whole text.
-/
namespace NemoClaw.Transcript

open Js Pieces List

abbrev Text := List ℕ

def carriageReturn : ℕ := 0x0D
def lineFeed : ℕ := 0x0A

/-- `text.slice(-n)`. -/
def sliceLast (n : ℕ) (text : Text) : Text := if n = 0 then text else text.rtake n

lemma sliceLast_of_pos {n : ℕ} (h : 1 ≤ n) (text : Text) : sliceLast n text = text.rtake n :=
  if_neg (by omega)

/-- A number that is an integer and not below `least`. -/
def readInteger (least : ℕ) : Value → Option { n : ℕ // least ≤ n }
  | .num q =>
    if h : Value.isInteger q ∧ (least : ℤ) ≤ q.num then
      some ⟨q.num.toNat, Int.ofNat_le.mp (h.2.trans (Int.self_le_toNat _))⟩
    else none
  | _ => none

lemma readInteger_eq_some {least : ℕ} {v : Value} {n : { n : ℕ // least ≤ n }}
    (h : readInteger least v = some n) : v = .num (n : ℕ) := by
  cases v with
  | num q =>
    simp only [readInteger] at h
    split at h
    case isTrue hq =>
      cases h
      have hden : q.den = 1 := by simpa [Value.isInteger] using hq.1
      have hnonneg : 0 ≤ q.num := by omega
      have hcast : ((q.num.toNat : ℤ) : ℚ) = q := by
        rw [Int.toNat_of_nonneg hnonneg]; exact Rat.coe_int_num_of_den_eq_one hden
      exact congrArg Value.num hcast.symm
    case isFalse => cases h
  | _ => cases h

/-! ## The line decoder -/

structure BoundedLineDecoder where
  maxPendingChars : ℕ
  positive : 1 ≤ maxPendingChars
  pending : Text
  omittedPendingChars : ℕ
  skipLeadingLineFeed : Bool
  ended : Bool
  emitted : List Text

/-- The text that stands before a line that lost its beginning. -/
def omittedMarker (omittedChars : ℕ) : Text :=
  codeUnits ("[NemoClaw] " ++ toString omittedChars ++
    " leading characters omitted from oversized output line: ")

namespace BoundedLineDecoder

/-- The constructor. -/
def create (maxPendingChars : Value) : Except String BoundedLineDecoder :=
  match readInteger 1 maxPendingChars with
  | some ⟨n, positive⟩ => .ok ⟨n, positive, [], 0, false, false, []⟩
  | none => .error "maxPendingChars must be a positive integer"

def appendPending (d : BoundedLineDecoder) (text : Text) : BoundedLineDecoder :=
  if text = [] then d
  else if d.maxPendingChars ≤ text.length then
    { d with
      omittedPendingChars :=
        d.omittedPendingChars + (d.pending.length + text.length - d.maxPendingChars)
      pending := sliceLast d.maxPendingChars text }
  else
    let pending := d.pending ++ text
    if d.maxPendingChars < pending.length then
      let overflow := pending.length - d.maxPendingChars
      { d with
        pending := pending.drop overflow
        omittedPendingChars := d.omittedPendingChars + overflow }
    else { d with pending }

def flushLine (d : BoundedLineDecoder) : BoundedLineDecoder :=
  let line :=
    if 0 < d.omittedPendingChars then omittedMarker d.omittedPendingChars ++ d.pending
    else d.pending
  { d with pending := [], omittedPendingChars := 0, emitted := d.emitted ++ [line] }

def scan (d : BoundedLineDecoder) (slice : Text) : Text → BoundedLineDecoder
  | [] => d.appendPending slice
  | character :: rest =>
    if character = carriageReturn then
      match rest with
      | [] => { (d.appendPending slice).flushLine with skipLeadingLineFeed := true }
      | next :: rest' =>
        let flushed := (d.appendPending slice).flushLine
        if next = lineFeed then scan flushed [] rest' else scan flushed [] (next :: rest')
    else if character = lineFeed then scan (d.appendPending slice).flushLine [] rest
    else scan d (slice ++ [character]) rest

def consume (d : BoundedLineDecoder) (text : Text) : BoundedLineDecoder :=
  if text = [] then d
  else if d.skipLeadingLineFeed then
    let d := { d with skipLeadingLineFeed := false }
    if text.head? = some lineFeed then d.scan [] (text.drop 1) else d.scan [] text
  else d.scan [] text

def write (d : BoundedLineDecoder) (chunk : Text) : Except String BoundedLineDecoder :=
  if d.ended then .error "cannot write after decoder end" else .ok (d.consume chunk)

def finish (d : BoundedLineDecoder) : BoundedLineDecoder :=
  if d.ended then d
  else
    let d := { d.consume [] with skipLeadingLineFeed := false }
    let d := if d.pending ≠ [] ∨ 0 < d.omittedPendingChars then d.flushLine else d
    { d with ended := true }

def decode (d : BoundedLineDecoder) (chunks : List Text) : Except String BoundedLineDecoder :=
  (chunks.foldlM write d).map finish

end BoundedLineDecoder

def boundedLine (n : ℕ) (line : Text) : Text :=
  if n < line.length then omittedMarker (line.length - n) ++ line.rtake n else line

namespace BoundedLineDecoder

structure Tracks (n : ℕ) (d : BoundedLineDecoder) (r : Reader ℕ) : Prop where
  bound : d.maxPendingChars = n
  pending : d.pending = r.current.rtake n
  omitted : d.omittedPendingChars = r.current.length - n
  skip : d.skipLeadingLineFeed = r.afterCarriage
  emitted : d.emitted = r.lines.map (boundedLine n)
  open_ : d.ended = false

section Tracks

variable {n : ℕ} {d : BoundedLineDecoder}

variable {lines : List Text} {current : Text}

/-- The flag for a carriage return is set aside from the rest. -/
lemma Tracks.setSkip {before : Bool} (h : Tracks n d ⟨lines, current, before⟩) (after : Bool) :
    Tracks n { d with skipLeadingLineFeed := after } ⟨lines, current, after⟩ :=
  ⟨h.bound, h.pending, h.omitted, rfl, h.emitted, h.open_⟩

lemma Tracks.appendPending {flag : Bool} (h : Tracks n d ⟨lines, current, flag⟩) (text : Text) :
    Tracks n (d.appendPending text) ⟨lines, current ++ text, flag⟩ := by
  obtain rfl := h.bound
  have hpending : d.pending = current.rtake d.maxPendingChars := h.pending
  have homitted : d.omittedPendingChars = current.length - d.maxPendingChars := h.omitted
  have hlength := length_rtake current d.maxPendingChars
  rw [← hpending] at hlength
  unfold BoundedLineDecoder.appendPending
  split
  case isTrue htext => simpa [htext] using h
  case isFalse htext =>
    have htextlen := length_pos_iff.mpr htext
    split
    case isTrue hlong =>
      refine ⟨rfl, ?_, ?_, h.skip, h.emitted, h.open_⟩
      · rw [sliceLast_of_pos d.positive, rtake_append_of_le hlong]
      · show d.omittedPendingChars + (d.pending.length + text.length - d.maxPendingChars) = _
        rw [length_append]; omega
    case isFalse hshort =>
      dsimp only
      split
      case isTrue hover =>
        rw [length_append] at hover
        refine ⟨rfl, ?_, ?_, h.skip, h.emitted, h.open_⟩
        · show (d.pending ++ text).rtake d.maxPendingChars = _
          rw [hpending, rtake_append_rtake]
        · show d.omittedPendingChars + ((d.pending ++ text).length - d.maxPendingChars) = _
          rw [length_append, length_append]; omega
      case isFalse hfits =>
        rw [length_append] at hfits
        have hcurrent : current.length ≤ d.maxPendingChars := by omega
        have hall : (current ++ text).length ≤ d.maxPendingChars := by
          rw [length_append]; omega
        refine ⟨rfl, ?_, ?_, h.skip, h.emitted, h.open_⟩
        · rw [rtake_of_length_le hall, hpending, rtake_of_length_le hcurrent]
        · show d.omittedPendingChars = (current ++ text).length - d.maxPendingChars; omega

lemma Tracks.flushLine {flag : Bool} (h : Tracks n d ⟨lines, current, flag⟩) :
    Tracks n d.flushLine ⟨lines ++ [current], [], flag⟩ := by
  have hline : (if 0 < d.omittedPendingChars then omittedMarker d.omittedPendingChars ++ d.pending
      else d.pending) = boundedLine n current := by
    rw [h.omitted, h.pending]
    unfold boundedLine
    dsimp only
    split_ifs with hpos hlong hlong
    · rfl
    · omega
    · omega
    · exact rtake_of_length_le (by omega)
  refine ⟨h.bound, by simp [BoundedLineDecoder.flushLine], by simp [BoundedLineDecoder.flushLine],
    h.skip, ?_, h.open_⟩
  show d.emitted ++ [_] = _
  rw [hline, h.emitted, map_append, map_singleton]

/-- The loop goes through a chunk like the reader, which is in the line that `slice` goes
on with. -/
theorem Tracks.scan {text slice : Text} (h : Tracks n d ⟨lines, current, false⟩) :
    Tracks n (d.scan slice text)
      ((Reader.mk lines (current ++ slice) false).read carriageReturn lineFeed text) := by
  have hne : carriageReturn ≠ lineFeed := by decide
  induction hlen : text.length using Nat.strong_induction_on generalizing d slice lines current text
  with
  | _ length ih =>
    have hflushed := (h.appendPending slice).flushLine
    cases text with
    | nil => exact h.appendPending slice
    | cons character rest =>
    rw [length_cons] at hlen
    unfold BoundedLineDecoder.scan
    rw [Reader.read_cons]
    by_cases hcr : character = carriageReturn
    · subst hcr
      rw [if_pos rfl, Reader.feed_carriage hne, Reader.endLine]
      cases rest with
      | nil => exact hflushed.setSkip true
      | cons next rest =>
      rw [length_cons] at hlen
      dsimp only
      rw [Reader.read_cons]
      split
      case isTrue hlf =>
        subst hlf; exact ih rest.length (by omega) hflushed rfl
      case isFalse hlf =>
        rw [Reader.feed_of_ne _ _ hlf, ← Reader.read_cons]
        exact ih (next :: rest).length (by rw [length_cons]; omega) hflushed rfl
    · rw [if_neg hcr]
      by_cases hlf : character = lineFeed
      · subst hlf
        rw [if_pos rfl, Reader.feed_lineFeed rfl, Reader.endLine]
        exact ih rest.length (by omega) hflushed rfl
      · rw [if_neg hlf, Reader.feed_letter _ hcr hlf, append_assoc]
        exact ih rest.length (by omega) h rfl

lemma Tracks.scan_start (h : Tracks n d ⟨lines, current, false⟩) (text : Text) :
    Tracks n (d.scan [] text)
      ((Reader.mk lines current false).read carriageReturn lineFeed text) := by
  have hscan : Tracks n (d.scan [] text)
      ((Reader.mk lines (current ++ []) false).read carriageReturn lineFeed text) := h.scan
  rwa [append_nil] at hscan

theorem Tracks.consume {r : Reader ℕ} (h : Tracks n d r) (text : Text) :
    Tracks n (d.consume text) (r.read carriageReturn lineFeed text) := by
  obtain ⟨lines, current, flag⟩ := r
  have hskip : d.skipLeadingLineFeed = flag := h.skip
  unfold BoundedLineDecoder.consume
  cases text with
  | nil => exact h
  | cons character rest =>
  rw [if_neg (by simp), Reader.read_cons]
  cases flag with
  | false => rw [if_neg (by simp [hskip]), ← Reader.read_cons]; exact h.scan_start _
  | true =>
    rw [if_pos hskip]
    have hset := h.setSkip false
    split
    case isTrue hhead =>
      cases hhead; exact hset.scan_start rest
    case isFalse hhead =>
      have hlf : character ≠ lineFeed := by simpa using hhead
      rw [Reader.feed_of_ne _ _ hlf, ← Reader.read_cons]; exact hset.scan_start _

theorem Tracks.finish {r : Reader ℕ} (h : Tracks n d r) :
    d.finish.emitted = r.finish.map (boundedLine n) := by
  obtain ⟨lines, current, flag⟩ := r
  have hset := h.setSkip false
  have hempty : (d.pending ≠ [] ∨ 0 < d.omittedPendingChars) ↔ current ≠ [] := by
    have hpos := h.bound ▸ d.positive
    have hlength := length_rtake current n
    rw [h.pending, h.omitted, ← length_pos_iff, ← length_pos_iff]
    dsimp only; omega
  unfold BoundedLineDecoder.finish Reader.finish
  rw [if_neg (by simp [h.open_])]
  simp only [BoundedLineDecoder.consume, if_true, hempty]
  by_cases hcurrent : current = []
  · rw [if_neg (not_not.mpr hcurrent), if_pos hcurrent, append_nil]; exact h.emitted
  · rw [if_pos hcurrent, if_neg hcurrent]; exact hset.flushLine.emitted

lemma Tracks.foldlM_write {r : Reader ℕ} (h : Tracks n d r) (chunks : List Text) :
    ∃ d', chunks.foldlM write d = .ok d' ∧
      Tracks n d' (r.read carriageReturn lineFeed chunks.flatten) := by
  induction chunks generalizing d r with
  | nil => exact ⟨d, rfl, h⟩
  | cons chunk chunks ih =>
    obtain ⟨d', hd', htracks⟩ := ih (h.consume chunk)
    refine ⟨d', ?_, ?_⟩
    · have hwrite : d.write chunk = .ok (d.consume chunk) := if_neg (by simp [h.open_])
      rw [foldlM_cons, hwrite]; exact hd'
    · rw [flatten_cons, Reader.read_append]; exact htracks

end Tracks

lemma create_eq_ok {maxPendingChars : Value} {d : BoundedLineDecoder}
    (h : create maxPendingChars = .ok d) :
    maxPendingChars = .num d.maxPendingChars ∧ Tracks d.maxPendingChars d Reader.start := by
  unfold create at h
  split at h
  case h_1 k n positive hread =>
    cases h
    exact ⟨readInteger_eq_some hread, rfl, by simp [Reader.start], by simp [Reader.start], rfl, rfl,
      rfl⟩
  case h_2 => cases h

end BoundedLineDecoder

/-- The lines of a text come out alike however it is cut into chunks, each within the bound. -/
theorem boundedLineDecoder_lines {maxPendingChars : Value} {d : BoundedLineDecoder}
    (hcreate : BoundedLineDecoder.create maxPendingChars = .ok d) {text : Text}
    {chunks : List Text} (hchunks : chunks.flatten = text) :
    maxPendingChars = .num d.maxPendingChars ∧
      ∃ d' lines, d.decode chunks = .ok d' ∧ Lines carriageReturn lineFeed text lines ∧
        d'.emitted = lines.map fun line =>
          if d.maxPendingChars < line.length then
            omittedMarker (line.length - d.maxPendingChars) ++ line.rtake d.maxPendingChars
          else line := by
  obtain ⟨hnumber, htracks⟩ := BoundedLineDecoder.create_eq_ok hcreate
  obtain ⟨d', hwrites, htracks'⟩ := htracks.foldlM_write chunks
  have hne : carriageReturn ≠ lineFeed := by decide
  have hlines := Reader.lines_finish hne chunks.flatten
  refine ⟨hnumber, d'.finish, _, ?_, hchunks ▸ hlines, htracks'.finish⟩
  unfold BoundedLineDecoder.decode
  rw [hwrites]; rfl

/-- A line end that two chunks share, and a line that is too long. -/
theorem boundedLineDecoder_lines_chunks :
    ∃ d, BoundedLineDecoder.create (.num 4) = .ok d ∧
      ∃ d' lines, d.decode [codeUnits "ab\r", [], codeUnits "\ncdefgh"] = .ok d' ∧
        Lines carriageReturn lineFeed (codeUnits "ab\r\ncdefgh") lines ∧
        d'.emitted = lines.map fun line =>
          if d.maxPendingChars < line.length then
            omittedMarker (line.length - d.maxPendingChars) ++ line.rtake d.maxPendingChars
          else line := by
  have hcreate : BoundedLineDecoder.create (.num 4) =
      .ok ⟨4, by decide, [], 0, false, false, []⟩ := rfl
  have hchunks : [codeUnits "ab\r", [], codeUnits "\ncdefgh"].flatten =
      codeUnits "ab\r\ncdefgh" := by decide
  exact ⟨_, hcreate, (boundedLineDecoder_lines hcreate hchunks).2⟩

/-! ## The transcript -/

structure BoundedTextTranscript where
  headChars : ℕ
  tailChars : ℕ
  head : Text
  tail : Text
  totalChars : ℕ

/-- The line that says how much is left out. -/
def transcriptMarker (omittedChars : ℕ) : Text :=
  if 0 < omittedChars then
    codeUnits ("\n[NemoClaw] " ++ toString omittedChars ++ " transcript characters omitted.\n")
  else []

/-- `output.endsWith("\n") ? output.slice(0, -1) : output`. -/
def withoutFinalLineFeed (output : Text) : Text :=
  if output.getLast? = some lineFeed then output.dropLast else output

namespace BoundedTextTranscript

/-- `options.headChars ?? Math.floor(options.maxChars / 4)`. -/
def headCharsOf (maxChars : ℕ) : Option Value → Value
  | none | some .null => .num (maxChars / 4 : ℕ)
  | some v => v

/-- The constructor. -/
def create (maxChars : Value) (headChars : Option Value) : Except String BoundedTextTranscript :=
  match readInteger 1 maxChars with
  | none => .error "maxChars must be a positive integer"
  | some ⟨maxChars, _⟩ =>
    match readInteger 0 (headCharsOf maxChars headChars) with
    | some ⟨headChars, _⟩ =>
      if headChars ≤ maxChars then .ok ⟨headChars, maxChars - headChars, [], [], 0⟩
      else .error "headChars must be an integer between zero and maxChars"
    | none => .error "headChars must be an integer between zero and maxChars"

def append (t : BoundedTextTranscript) (text : Text) : BoundedTextTranscript :=
  if text = [] then t
  else
    let headRemaining := t.headChars - t.head.length
    let head := if 0 < headRemaining then t.head ++ text.take headRemaining else t.head
    let rest := if 0 < headRemaining then text.drop headRemaining else text
    let t := { t with totalChars := t.totalChars + text.length, head }
    if rest = [] ∨ t.tailChars = 0 then t
    else if t.tailChars ≤ rest.length then { t with tail := sliceLast t.tailChars rest }
    else { t with tail := sliceLast t.tailChars (t.tail ++ rest) }

def appendLine (t : BoundedTextTranscript) (line : Text) : BoundedTextTranscript :=
  t.append (line ++ [lineFeed])

/-- `toString`. -/
def toText (t : BoundedTextTranscript) : Text :=
  withoutFinalLineFeed
    (t.head ++ transcriptMarker (t.totalChars - t.head.length - t.tail.length) ++ t.tail)

/-- The transcript has the two ends of the text so far. -/
structure Keeps (t : BoundedTextTranscript) (whole : Text) : Prop where
  head : t.head = whole.take t.headChars
  tail : t.tail = (whole.drop t.headChars).rtake t.tailChars
  total : t.totalChars = whole.length

variable {t : BoundedTextTranscript}

lemma Keeps.append {whole : Text} (h : t.Keeps whole) (text : Text) :
    (t.append text).Keeps (whole ++ text) := by
  unfold BoundedTextTranscript.append
  split
  case isTrue htext => simpa [htext] using h
  case isFalse =>
    have hremaining : t.headChars - t.head.length = t.headChars - whole.length := by
      rw [h.head, length_take]; omega
    have hhead : (if 0 < t.headChars - t.head.length then
        t.head ++ text.take (t.headChars - t.head.length) else t.head) =
        (whole ++ text).take t.headChars := by
      rw [hremaining, h.head, take_append]
      split
      case isTrue => rfl
      case isFalse hzero => simp [Nat.eq_zero_of_not_pos hzero]
    have hrest : (if 0 < t.headChars - t.head.length then
        text.drop (t.headChars - t.head.length) else text) =
        text.drop (t.headChars - whole.length) := by
      rw [hremaining]
      split
      case isTrue => rfl
      case isFalse hzero => simp [Nat.eq_zero_of_not_pos hzero]
    have hdrop : (whole ++ text).drop t.headChars =
        whole.drop t.headChars ++ text.drop (t.headChars - whole.length) := drop_append
    have htotal : t.totalChars + text.length = (whole ++ text).length := by
      rw [length_append, h.total]
    dsimp only
    rw [hhead, hrest]
    split
    case isTrue hnone =>
      refine ⟨rfl, ?_, htotal⟩
      rw [hdrop, h.tail]
      rcases hnone with hnil | hzero
      · rw [hnil, append_nil]
      · rw [hzero, rtake_zero, rtake_zero]
    case isFalse hsome =>
      have hpos : 1 ≤ t.tailChars := Nat.one_le_iff_ne_zero.mpr fun hzero => hsome (.inr hzero)
      split
      case isTrue hlong =>
        refine ⟨rfl, ?_, htotal⟩
        rw [hdrop, sliceLast_of_pos hpos, rtake_append_of_le hlong]
      case isFalse =>
        refine ⟨rfl, ?_, htotal⟩
        show sliceLast t.tailChars _ = ((whole ++ text).drop t.headChars).rtake t.tailChars
        rw [hdrop, sliceLast_of_pos hpos, h.tail, rtake_append_rtake]

@[simp] lemma append_headChars (t : BoundedTextTranscript) (text : Text) :
    (t.append text).headChars = t.headChars := by
  unfold append
  dsimp only
  split_ifs <;> rfl

@[simp] lemma append_tailChars (t : BoundedTextTranscript) (text : Text) :
    (t.append text).tailChars = t.tailChars := by
  unfold append
  dsimp only
  split_ifs <;> rfl

lemma Keeps.appendLines {whole : Text} (h : t.Keeps whole) (lines : List Text) :
    (lines.foldl appendLine t).Keeps (whole ++ lines.flatMap (· ++ [lineFeed])) ∧
      (lines.foldl appendLine t).headChars = t.headChars ∧
      (lines.foldl appendLine t).tailChars = t.tailChars := by
  induction lines generalizing t whole with
  | nil => simpa using h
  | cons line lines ih =>
    obtain ⟨hkeeps, hhead, htail⟩ := ih (h.append (line ++ [lineFeed]))
    rw [append_assoc] at hkeeps
    exact ⟨hkeeps, hhead.trans (append_headChars t _), htail.trans (append_tailChars t _)⟩

lemma create_eq_ok {maxChars : Value} {headChars : Option Value}
    (h : create maxChars headChars = .ok t) :
    maxChars = .num (t.headChars + t.tailChars : ℕ) ∧
      headCharsOf (t.headChars + t.tailChars) headChars = .num t.headChars ∧ t.Keeps [] := by
  unfold create at h
  split at h
  case h_1 => cases h
  case h_2 n hn hmax =>
    split at h
    case h_1 m hm hhead =>
      split at h
      case isTrue hle =>
        cases h
        have hsum : m + (n - m) = n := by omega
        refine ⟨?_, ?_, by simp, by simp, rfl⟩
        · rw [hsum]; exact readInteger_eq_some hmax
        · rw [hsum]; exact readInteger_eq_some hhead
      case isFalse => cases h
    case h_2 => cases h

end BoundedTextTranscript

def boundedTranscript (headChars tailChars : ℕ) (whole : Text) : Text :=
  withoutFinalLineFeed (whole.take headChars ++
    transcriptMarker (whole.length - (headChars + tailChars)) ++
    (whole.drop headChars).rtake tailChars)

lemma boundedTranscript_of_fits {headChars tailChars : ℕ} {whole : Text}
    (h : whole.length ≤ headChars + tailChars) :
    boundedTranscript headChars tailChars whole = withoutFinalLineFeed whole := by
  have hrest : (whole.drop headChars).length ≤ tailChars := by
    rw [length_drop]; omega
  rw [boundedTranscript, Nat.sub_eq_zero_of_le h, rtake_of_length_le hrest, transcriptMarker,
    if_neg (by decide), append_nil, take_append_drop]

/-- A transcript keeps the two ends of all that was appended, says how much is left out between
them, and is the whole text, but for its last line end, where that fits. -/
theorem boundedTextTranscript_ends {maxChars : Value} {headChars : Option Value}
    {t : BoundedTextTranscript} (hcreate : BoundedTextTranscript.create maxChars headChars = .ok t)
    (lines : List Text) :
    let kept := lines.foldl BoundedTextTranscript.appendLine t
    let whole := lines.flatMap (· ++ [lineFeed])
    maxChars = .num (t.headChars + t.tailChars : ℕ) ∧
      BoundedTextTranscript.headCharsOf (t.headChars + t.tailChars) headChars = .num t.headChars ∧
      kept.head = whole.take t.headChars ∧
      kept.tail = (whole.drop t.headChars).rtake t.tailChars ∧
      kept.toText = boundedTranscript t.headChars t.tailChars whole ∧
      kept.head.length + (whole.length - (t.headChars + t.tailChars)) + kept.tail.length =
        whole.length ∧
      (whole.length ≤ t.headChars + t.tailChars → kept.toText = withoutFinalLineFeed whole) := by
  intro kept whole
  obtain ⟨hmax, hheadChars, hempty⟩ := BoundedTextTranscript.create_eq_ok hcreate
  obtain ⟨hkeeps, hkeptHead, hkeptTail⟩ := hempty.appendLines lines
  have hhead : kept.head = whole.take t.headChars := hkeptHead ▸ hkeeps.head
  have htail : kept.tail = (whole.drop t.headChars).rtake t.tailChars :=
    hkeptHead ▸ hkeptTail ▸ hkeeps.tail
  have htotal : kept.totalChars = whole.length := hkeeps.total
  have hlengths : kept.head.length + (whole.length - (t.headChars + t.tailChars)) +
      kept.tail.length = whole.length := by
    rw [hhead, htail, length_rtake, length_take, length_drop]; omega
  have htext : kept.toText = boundedTranscript t.headChars t.tailChars whole := by
    have homitted : kept.totalChars - kept.head.length - kept.tail.length =
        whole.length - (t.headChars + t.tailChars) := by omega
    rw [BoundedTextTranscript.toText, homitted, hhead, htail, boundedTranscript]
  exact ⟨hmax, hheadChars, hhead, htail, htext, hlengths,
    fun hfits => htext.trans (boundedTranscript_of_fits hfits)⟩

/-- Twenty characters with five at the front. -/
theorem boundedTextTranscript_ends_twenty :
    ∃ t, BoundedTextTranscript.create (.num 20) (some (.num 5)) = .ok t ∧
      ([codeUnits "first", codeUnits "middle-middle-middle",
        codeUnits "terminal"].foldl BoundedTextTranscript.appendLine t).toText =
        boundedTranscript 5 15 (codeUnits "first\nmiddle-middle-middle\nterminal\n") := by
  have hcreate : BoundedTextTranscript.create (.num 20) (some (.num 5)) =
      .ok ⟨5, 15, [], [], 0⟩ := rfl
  exact ⟨_, hcreate, (boundedTextTranscript_ends hcreate _).2.2.2.2.1⟩

end NemoClaw.Transcript
