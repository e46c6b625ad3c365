import Mathlib.Data.List.Range
import Pmrp.Lib.StableSort
import Pmrp.Schemas.Portfolio
import Pmrp.Storage.Columns

/-!
# `Storage.JournalEntries` — the journal repository

`JournalEntryRow` and `JournalLineRow` of `storage/models/portfolio.py` and the two mappings of
`storage/repositories/journal_entries.py`. An entry is a header row and one row for each line, numbered from 1.
-/

namespace Pmrp

structure JournalEntryRow where
  journalEntryId : String
  occurredAt : UTCDateTime
  sourceEventId : EventId
  referenceType : String
  referenceId : String
  description : String
  createdAt : UTCDateTime
  deriving DecidableEq

/-- Text columns keep what a `JournalLine` has checked, so a row holds the line and reading it checks nothing more. -/
structure JournalLineRow where
  journalEntryId : String
  lineNumber : ℕ
  line : JournalLine

namespace JournalEntryRepository

variable (ctx : DecimalContext) (column : NumericColumn)

def lineRows (journalEntryId : String) (lines : List JournalLine) : List JournalLineRow :=
  (lines.zipIdx 1).map fun numbered => ⟨journalEntryId, numbered.2, numbered.1⟩

def journalEntryToRows (journalEntry : AccountingJournalEntry) : JournalEntryRow × List JournalLineRow :=
  ({ journalEntryId := journalEntry.journalEntryId, occurredAt := journalEntry.occurredAt,
     sourceEventId := journalEntry.sourceEventId, referenceType := journalEntry.referenceType,
     referenceId := journalEntry.referenceId, description := journalEntry.description,
     createdAt := journalEntry.createdAt },
   lineRows journalEntry.journalEntryId journalEntry.lines)

def validateLineRowsForHeader (headerRow : JournalEntryRow) (lineRows : List JournalLineRow) : Result Unit := do
  raiseIf (lineRows.length = 0)
    ⟨.invariantViolationError, "journal entry has no persisted lines"⟩
  raiseIf (lineRows.map JournalLineRow.lineNumber ≠ List.range' 1 lineRows.length)
    ⟨.invariantViolationError, "journal entry line numbers must be contiguous"⟩
  raiseIf (¬∀ row ∈ lineRows, row.journalEntryId = headerRow.journalEntryId)
    ⟨.invariantViolationError, "journal line belongs to a different journal entry"⟩

def journalEntryFromRows (headerRow : JournalEntryRow) (lineRows : List JournalLineRow) :
    Result AccountingJournalEntry := do
  let orderedLineRows := sortByKey JournalLineRow.lineNumber lineRows
  validateLineRowsForHeader headerRow orderedLineRows
  AccountingJournalEntry.validate ctx {
    journalEntryId := headerRow.journalEntryId, occurredAt := headerRow.occurredAt,
    sourceEventId := headerRow.sourceEventId, referenceType := headerRow.referenceType,
    referenceId := headerRow.referenceId, lines := orderedLineRows.map JournalLineRow.line,
    description := headerRow.description, createdAt := headerRow.createdAt }

/-- The line as the column of its amount keeps it. -/
def storeLine (line : JournalLine) : Result JournalLine :=
  (column.storeValue line.amount).map fun amount => { line with amount }

def storeLineRow (row : JournalLineRow) : Result JournalLineRow :=
  (storeLine column row.line).map fun line => { row with line }

/-- What an entry becomes in the tables and back. -/
def stored (journalEntry : AccountingJournalEntry) : Result AccountingJournalEntry := do
  let (headerRow, lineRows) := journalEntryToRows journalEntry
  let storedRows ← lineRows.mapM (storeLineRow column)
  journalEntryFromRows ctx headerRow storedRows

/-! ## What the mappings keep -/

variable {ctx column}

theorem lineNumber_lineRows (journalEntryId : String) (lines : List JournalLine) :
    (lineRows journalEntryId lines).map JournalLineRow.lineNumber = List.range' 1 lines.length := by
  rw [lineRows, List.map_map]
  exact List.zipIdx_map_snd 1 lines

theorem line_lineRows (journalEntryId : String) (lines : List JournalLine) :
    (lineRows journalEntryId lines).map JournalLineRow.line = lines := by
  rw [lineRows, List.map_map]
  exact List.zipIdx_map_fst 1 lines

/-- Storing the rows of some lines is storing the lines. -/
theorem mapM_storeLineRow (journalEntryId : String) (lines : List JournalLine) :
    (lineRows journalEntryId lines).mapM (storeLineRow column)
      = (lines.mapM (storeLine column)).map (lineRows journalEntryId) := by
  unfold lineRows
  generalize 1 = start
  induction lines generalizing start with
  | nil => rfl
  | cons line lines ih =>
      rw [List.zipIdx_cons, List.map_cons, List.mapM_cons, ih, List.mapM_cons, storeLineRow]
      cases storeLine column line with
      | error e => rfl
      | ok storedLine => cases lines.mapM (storeLine column) <;> rfl

/-- Rows of lines that are read back give an entry of these lines. -/
theorem journalEntryFromRows_lineRows (journalEntry : AccountingJournalEntry) {lines : List JournalLine}
    (hlines : lines ≠ []) :
    journalEntryFromRows ctx (journalEntryToRows journalEntry).1 (lineRows journalEntry.journalEntryId lines)
      = AccountingJournalEntry.validate ctx { journalEntry with lines } := by
  have hsorted : sortByKey JournalLineRow.lineNumber (lineRows journalEntry.journalEntryId lines)
      = lineRows journalEntry.journalEntryId lines := by
    apply sortByKey_of_pairwise
    rw [← List.pairwise_map (f := JournalLineRow.lineNumber) (R := fun a b => a ≤ b), lineNumber_lineRows]
    exact List.Pairwise.imp Nat.le_of_lt List.pairwise_lt_range'
  have hlength : (lineRows journalEntry.journalEntryId lines).length = lines.length := by
    rw [lineRows, List.length_map, List.length_zipIdx]
  have hchecks : validateLineRowsForHeader (journalEntryToRows journalEntry).1
      (lineRows journalEntry.journalEntryId lines) = .ok ⟨⟩ := by
    simp only [validateLineRowsForHeader, bind_eq_ok, raiseIf_eq_ok, exists_const, not_not]
    refine ⟨?_, ?_, ?_⟩
    · rw [hlength, List.length_eq_zero_iff]
      exact hlines
    · rw [lineNumber_lineRows, hlength]
    · intro row hrow
      obtain ⟨_, -, rfl⟩ := List.mem_map.mp hrow
      rfl
  rw [journalEntryFromRows, hsorted, hchecks, ok_bind, line_lineRows]
  rfl

/-- The columns keep the amount of every line. -/
def Kept (column : NumericColumn) (journalEntry : AccountingJournalEntry) : Prop :=
  ∀ line ∈ journalEntry.lines, column.Keeps line.amount

theorem storeLine_eq_self {line : JournalLine} : storeLine column line = .ok line ↔ column.Keeps line.amount := by
  rw [storeLine, map_eq_ok]
  constructor
  · rintro ⟨amount, hamount, hline⟩
    obtain rfl : amount = line.amount := congrArg JournalLine.amount hline
    exact NumericColumn.storeValue_eq_ok.mp hamount
  · intro h
    exact ⟨_, h.storeValue, rfl⟩

/-- **Storing an entry.** It comes back unchanged exactly when the columns keep the amounts of its lines. -/
theorem stored_eq_self {journalEntry : AccountingJournalEntry} (hvalid : journalEntry.Valid ctx) :
    stored ctx column journalEntry = .ok journalEntry ↔ Kept column journalEntry := by
  have hstored : stored ctx column journalEntry
      = (journalEntry.lines.mapM (storeLine column)).map (lineRows journalEntry.journalEntryId) >>=
          journalEntryFromRows ctx (journalEntryToRows journalEntry).1 := by
    rw [← mapM_storeLineRow]
    rfl
  rw [hstored]
  constructor
  · intro h
    obtain ⟨rows, hrows, hread⟩ := bind_eq_ok.mp h
    obtain ⟨lines, hlines, rfl⟩ := map_eq_ok.mp hrows
    have hne : lines ≠ [] := by
      intro hnil
      have hlength := length_of_mapM hlines
      rw [hnil] at hlength
      exact hvalid.lines_ne_nil (List.length_eq_zero_iff.mp hlength)
    rw [journalEntryFromRows_lineRows _ hne, AccountingJournalEntry.validate_eq_ok] at hread
    have hsame : journalEntry.lines = lines := congrArg AccountingJournalEntry.lines hread.2
    rw [← hsame] at hlines
    intro line hline
    exact storeLine_eq_self.mp (eq_self_of_mapM hlines line hline)
  · intro h
    have hlines : journalEntry.lines.mapM (storeLine column) = .ok (journalEntry.lines.map id) :=
      mapM_ok fun line hline => storeLine_eq_self.mpr (h line hline)
    rw [hlines, List.map_id]
    show journalEntryFromRows _ _ _ = _
    rw [journalEntryFromRows_lineRows _ hvalid.lines_ne_nil]
    exact hvalid.validate

end JournalEntryRepository
end Pmrp
