import Pmrp.Replay.Engine
import Pmrp.Replay.Records

/-!
# `Replay.Loader` — datasets from files

`load_replay_dataset` of `replay/loader.py` with `load_replay_manifest` of `replay/manifest.py`, the errors of
`replay/errors.py` and the checksum of `replay/checksum.py`. A file is its bytes, or nothing when it cannot be read.
-/

namespace Pmrp

/-- `ReplayError` and its subclasses. -/
def PyError.isReplayError (e : PyError) : Bool :=
  match e.kind with
  | .replayManifestLoadError | .replayDatasetLoadError | .replayEngineError | .replayChecksumError
  | .replayClockError | .replayOrderingError => true
  | _ => false

namespace ReplayLoader

open ReplayRecords

/-- A `pathlib.Path`: its text and its final component. -/
structure FilePath where
  text : String
  name : String

/-- `path.suffix`: from the last dot of the final component, with something on both sides of it. -/
def FilePath.suffix (path : FilePath) : String :=
  let extension := (path.name.toList.reverse.takeWhile fun c => c ≠ '.').reverse
  if extension ≠ [] ∧ extension.length + 1 < path.name.length then "." ++ String.ofList extension else ""

/-- What loading depends on. The canonical JSON of an accepted event has an encoding: it holds no floats, and no
    integers that Python refuses to write. -/
structure Runtime extends Parsers where
  readBytes : FilePath → Option ByteArray
  canonicalJson : CanonicalData → String
  sha256 : String → String
  length_sha256 : ∀ s, (sha256 s).length = 64
  hex_sha256 : ∀ s, ((sha256 s).toList.all fun c => inRange '0' '9' c || inRange 'a' 'f' c) = true

variable (runtime : Runtime)

/-! ## Errors -/

/-- Raising a `ReplayError`: its constructor refuses a context value with whitespace around it. -/
def raiseReplayError {α : Type} (kind : ErrorKind) (safeMessage : String) (context : List (String × String)) :
    Result α :=
  match context.find? fun item => ¬IsStrippedText item.2 with
  | some (key, _) =>
      .error (valueError s!"context value for {key} must be nonempty without surrounding whitespace")
  | none => .error ⟨kind, safeMessage⟩

/-! ## Texts -/

/-- What text mode makes of line ends. -/
def universalNewlines : List Char → List Char
  | [] => []
  | '\r' :: '\n' :: cs => '\n' :: universalNewlines cs
  | '\r' :: cs => '\n' :: universalNewlines cs
  | c :: cs => c :: universalNewlines cs

/-- What text mode reads for this text. -/
def textMode (text : String) : String := String.ofList (universalNewlines text.toList)

/-- `path.read_text(encoding="utf-8")` under `except OSError: return None`. -/
def tryReadText (path : FilePath) : Result (Option String) :=
  match runtime.readBytes path with
  | none => .ok none
  | some bytes =>
      match String.fromUTF8? bytes with
      | none => .error ⟨.unicodeDecodeError, "'utf-8' codec can't decode bytes"⟩
      | some text => .ok (some (textMode text))

/-- The characters at which `str.splitlines` ends a line. -/
def isLineBoundary (c : Char) : Bool :=
  inRange '\n' '\r' c || inRange '\x1c' '\x1e' c || c == '\x85' || c == '\u2028' || c == '\u2029'

/-- The first line starts with this character too. -/
def consFirst (c : Char) : List (List Char) → List (List Char)
  | [] => [[c]]
  | line :: lines => (c :: line) :: lines

/-- `text.splitlines()`. -/
def splitlines : List Char → List (List Char)
  | [] => []
  | '\r' :: '\n' :: cs => [] :: splitlines cs
  | c :: cs => if isLineBoundary c then [] :: splitlines cs else consFirst c (splitlines cs)

/-- `line == "" or line.isspace()`. -/
def isBlank (line : List Char) : Bool := line.all isSpace

/-! ## The manifest -/

def loadReplayManifest (path : FilePath) : Result ReplayManifest :=
  if path.name ≠ "manifest.json" then
    raiseReplayError .replayManifestLoadError "Replay manifest path must end with manifest.json" [("path", path.text)]
  else do
    match ← tryReadText runtime path with
    | none =>
        raiseReplayError .replayManifestLoadError "Replay manifest could not be read" [("path", path.text)]
    | some text =>
        match ← orNone (manifestFromJson runtime.toParsers text) with
        | none => raiseReplayError .replayManifestLoadError "Replay manifest is invalid" [("path", path.text)]
        | some manifest => pure manifest

/-! ## Events -/

/-- The loop over the lines of a file, the next one with this number. -/
def parseEventLines (path : FilePath) : ℕ → List (List Char) → Result (List EventEnvelope)
  | _, [] => .ok []
  | lineNumber, line :: lines =>
      if isBlank line then parseEventLines path (lineNumber + 1) lines
      else do
        match ← orNone (eventFromJson runtime.toParsers (String.ofList line)) with
        | none =>
            raiseReplayError .replayDatasetLoadError "Replay event line is invalid"
              [("path", path.text), ("line_number", toString lineNumber)]
        | some event => do pure (event :: (← parseEventLines path (lineNumber + 1) lines))

def loadReplayEventsJsonl (path : FilePath) : Result (List EventEnvelope) :=
  if path.suffix ≠ ".jsonl" then
    raiseReplayError .replayDatasetLoadError "Replay event path must end with .jsonl" [("path", path.text)]
  else do
    match ← tryReadText runtime path with
    | none =>
        raiseReplayError .replayDatasetLoadError "Replay event file could not be read" [("path", path.text)]
    | some text => do
        let events ← parseEventLines runtime path 1 (splitlines text.toList)
        if events.isEmpty then
          raiseReplayError .replayDatasetLoadError "Replay event file did not contain events" [("path", path.text)]
        else pure events

def loadReplayEventFiles : List FilePath → Result (List EventEnvelope)
  | [] => .ok []
  | path :: paths => do
      let events ← loadReplayEventsJsonl runtime path
      pure (events ++ (← loadReplayEventFiles paths))

/-- `calculate_replay_dataset_checksum`. -/
def calculateReplayDatasetChecksum (events : List EventEnvelope) : String :=
  "sha256:" ++ runtime.sha256 (String.join (events.map fun event => runtime.canonicalJson event.canonical ++ "\n"))

/-! ## The dataset -/

/-- The event is one of the manifest's session, in its window. -/
def EventBelongs (manifest : ReplayManifest) (event : EventEnvelope) : Prop :=
  event.replaySessionId = some manifest.replaySessionId ∧ manifest.startsAt ≤ event.occurredAt ∧
    event.occurredAt ≤ manifest.endsAt

instance (manifest : ReplayManifest) (event : EventEnvelope) : Decidable (EventBelongs manifest event) :=
  inferInstanceAs (Decidable (_ ∧ _ ∧ _))

/-- The constructor of `ReplayDataset`, for a checksum and events that were computed. -/
def buildDataset (manifest : ReplayManifest) (events : List EventEnvelope) (datasetChecksum : String) :
    Result ReplayDataset :=
  if hne : events = [] then .error (valueError "events: Tuple should have at least 1 item")
  else if hchecksum : datasetChecksum ≠ manifest.datasetChecksum then
    .error (valueError "dataset_checksum must match manifest dataset_checksum")
  else if hevents : ∀ event ∈ events, EventBelongs manifest event then
    .ok { manifest, events, datasetChecksum, events_ne := hne, checksum_eq := not_not.mp hchecksum,
          in_session := fun event h => (hevents event h).1, in_window := fun event h => (hevents event h).2 }
  else .error (valueError "event must be of the manifest's session and within its window")

/-- `load_replay_dataset` from the checksum of the events on. -/
def checkDataset (manifest : ReplayManifest) (events : List EventEnvelope) : Result ReplayDataset :=
  let datasetChecksum := calculateReplayDatasetChecksum runtime events
  if datasetChecksum ≠ manifest.datasetChecksum then
    raiseReplayError .replayChecksumError "Replay dataset checksum does not match manifest"
      [("dataset_id", manifest.datasetId), ("expected_checksum", manifest.datasetChecksum),
        ("actual_checksum", datasetChecksum)]
  else do
    match ← orNone (buildDataset manifest events datasetChecksum) with
    | none =>
        raiseReplayError .replayDatasetLoadError "Replay dataset is invalid" [("dataset_id", manifest.datasetId)]
    | some dataset => pure dataset

def loadReplayDataset (manifestPath : FilePath) (eventPaths : List FilePath) : Result ReplayDataset :=
  if eventPaths = [] then
    raiseReplayError .replayDatasetLoadError "Replay dataset requires at least one event file" []
  else do
    let manifest ← loadReplayManifest runtime manifestPath
    let events ← loadReplayEventFiles runtime eventPaths
    checkDataset runtime manifest events

end ReplayLoader
end Pmrp
