import AttestedPayments.Text.Base64
import AttestedPayments.Text.Utf8

/-!
# Armored data

Octets as text between a line that names what begins and a line that names what ends, with
base64 in lines of sixty-four symbols between them.

* `Armor.encode` — the text of octets under a label.
* `Armor.symbols`, `Armor.decode` — the base64 symbols under a label, and their octets. Text may
  stand before the first boundary, if it ends in a line feed and holds no NUL. Nothing but one line
  end may stand after the last boundary.
* `Armor.decodeRuns` — reading in runs, which stops once enough octets have been read.
* `Armor.pieces` — a file cut after each closing boundary.

A line end is a line feed, a carriage return, or both in the order CR LF.
-/

namespace AttestedPayments.Armor

/-- The octet CR. -/
def carriageReturn : UInt8 := 13

/-- The octet LF. -/
def lineFeed : UInt8 := 10

/-- What every opening boundary starts with. -/
def opening : Bytes := Utf8.encode "-----BEGIN "

/-- The line that opens data with a label. -/
def beginLine (label : String) : Bytes := Utf8.encode ("-----BEGIN " ++ label ++ "-----")

/-- The line that closes data with a label. -/
def endLine (label : String) : Bytes := Utf8.encode ("-----END " ++ label ++ "-----")

/-- The symbols on a full line. -/
def lineWidth : Nat := 64

/-- The octets under a label as text; every line ends in a line feed. -/
def encode (label : String) (bytes : Bytes) : String :=
  let lines := (chunks lineWidth (Base64.encode bytes)).map (· ++ [lineFeed])
  characters (beginLine label ++ [lineFeed] ++ lines.flatten ++ endLine label ++ [lineFeed])

/-- `some` of what follows `start` at the front. -/
def dropStart (start bytes : Bytes) : Option Bytes :=
  if start.isPrefixOf bytes then some (bytes.drop start.length) else none

/-- `some` of what precedes `ending` at the back. -/
def dropEnding (ending bytes : Bytes) : Option Bytes :=
  (dropStart ending.reverse bytes.reverse).map List.reverse

/-- `some` of what follows the line end at the front. -/
def dropLineEnd : Bytes → Option Bytes
  | 13 :: 10 :: rest => some rest
  | 13 :: rest => some rest
  | 10 :: rest => some rest
  | _ => none

theorem length_dropLineEnd {bytes rest : Bytes} (h : dropLineEnd bytes = some rest) :
    rest.length < bytes.length := by
  unfold dropLineEnd at h
  split at h
  · obtain rfl := Option.some.inj h
    simp only [List.length_cons]
    omega
  · obtain rfl := Option.some.inj h
    simp
  · obtain rfl := Option.some.inj h
    simp
  · cases h

/-- `some` of what precedes the line end at the back. -/
def dropLastLineEnd (bytes : Bytes) : Option Bytes :=
  match bytes.reverse with
  | 10 :: 13 :: rest => some rest.reverse
  | 10 :: rest => some rest.reverse
  | 13 :: rest => some rest.reverse
  | _ => none

/-- Skip the text before the first boundary. -/
def skipPreamble (bytes : Bytes) : Option Bytes :=
  if opening.isPrefixOf bytes then some bytes else go bytes
where
  /-- Look for a line feed that a boundary follows. -/
  go : Bytes → Option Bytes
    | [] => none
    | b :: rest =>
      if b = 0 then none
      else if b = lineFeed ∧ opening.isPrefixOf rest then some rest
      else go rest

/-- The symbols of all lines: each line but the last holds `lineWidth` of them, and the last one
may bring its own line end. The last line may be empty after a line without filling. -/
def joinLines (bytes : Bytes) : Option Bytes :=
  let line := bytes.take lineWidth
  if bytes.length ≤ lineWidth then some ((dropLastLineEnd line).getD line)
  else
    match _h : dropLineEnd (bytes.drop lineWidth) with
    | none => none
    | some [] => some line
    | some (b :: rest) =>
      match joinLines (b :: rest) with
      | none => none
      | some [] => if line.getLast? = some Base64.filler then none else some line
      | some more => some (line ++ more)
termination_by bytes.length
decreasing_by
  have shorter := length_dropLineEnd _h
  simp only [List.length_drop] at shorter
  omega

/-- The base64 symbols under a label. -/
def symbols (label : String) (bytes : Bytes) : Option Bytes := do
  let bytes ← skipPreamble bytes
  let bytes ← dropStart (beginLine label) bytes
  let bytes ← dropLineEnd bytes
  let bytes ← dropEnding (endLine label) ((dropLastLineEnd bytes).getD bytes)
  let bytes ← dropLastLineEnd bytes
  joinLines bytes

/-- The octets under a label. -/
def decode (label : String) (bytes : Bytes) : Option Bytes :=
  (symbols label bytes).bind Base64.decode

/-- The octets of a full run. -/
def runWidth : Nat := 256

/-- The end of the last run that is read by whoever wants the first `wanted` of `total` octets: a
run that is used up is followed by the next one at once. -/
def runEnd (wanted total : Nat) : Nat := min total (runWidth * (wanted / runWidth + 1))

/-- What `read` makes of the octets under a label at the front. What follows it does not matter,
but the runs of octets up to its end and the last group of symbols must be readable. -/
def decodeRuns {α : Type} (read : Bytes → Option (α × Bytes)) (label : String) (bytes : Bytes) :
    Option α := do
  let symbols ← symbols label bytes
  let total ← Base64.length? symbols
  let octets := Base64.readable symbols
  let (value, rest) ← read octets
  if runEnd (octets.length - rest.length) total ≤ octets.length then some value else none

/-- What `ending` closes first, with the ending itself, and what follows. -/
def splitAfter (ending : Bytes) : Bytes → Option (Bytes × Bytes)
  | [] => none
  | b :: rest =>
    if ending.isPrefixOf (b :: rest) then
      some ((b :: rest).take ending.length, (b :: rest).drop ending.length)
    else (splitAfter ending rest).map fun (piece, more) => (b :: piece, more)

/-- The octets without the line ends at their end. -/
def dropLineEnds (bytes : Bytes) : Bytes :=
  (bytes.reverse.dropWhile fun b => b = carriageReturn || b = lineFeed).reverse

theorem length_splitAfter {ending bytes piece rest : Bytes} (he : ending ≠ [])
    (h : splitAfter ending bytes = some (piece, rest)) : rest.length < bytes.length := by
  induction bytes generalizing piece with
  | nil => simp [splitAfter] at h
  | cons b bytes ih =>
    unfold splitAfter at h
    have hpos : 0 < ending.length := List.length_pos_iff.mpr he
    split at h
    · simp only [Option.some.injEq, Prod.mk.injEq] at h
      obtain ⟨_, rfl⟩ := h
      simp only [List.length_drop, List.length_cons]
      omega
    · simp only [Option.map_eq_some_iff] at h
      obtain ⟨⟨p, r⟩, hr, heq⟩ := h
      simp only [Prod.mk.injEq] at heq
      obtain ⟨_, rfl⟩ := heq
      have := ih hr
      simp only [List.length_cons]
      omega

/-- Cut octets after each `ending`; a single octet that is left over is dropped, and a longer rest
without an ending is a failure. -/
def cutAfter (ending : Bytes) (bytes : Bytes) : Option (List Bytes) :=
  if _he : ending = [] then none
  else if bytes.length ≤ 1 then some []
  else
    match _h : splitAfter ending bytes with
    | none => none
    | some (piece, rest) => (cutAfter ending rest).map (piece :: ·)
termination_by bytes.length
decreasing_by exact length_splitAfter _he _h

/-- A file of several blocks with one label, cut after each closing boundary. An empty file is a
failure. -/
def pieces (label : String) (file : Bytes) : Option (List Bytes) :=
  let bytes := dropLineEnds file
  if bytes = [] then none else cutAfter (endLine label) bytes

end AttestedPayments.Armor
