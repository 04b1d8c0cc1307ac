import ShadowIndex.Index.Entry
import ShadowIndex.Text.JsonObject

/-!
Contract: rows of the table of index entries.

Owns:
- `Columns`, what a row says of an entry behind its owner, as a database keeps it: the texts of
  fields as an object in JSON, the flag as a number;
- `Columns.ofContent`, how an entry is written, and `Columns.content?`, how columns are read;
- `DatabaseRow`, numbered columns that were written.

Main statement: `Columns.content?_ofContent`, what is read is what was written.

Does not own: the time of the last build, of which there is only whether there is one.
-/

set_option autoImplicit false

namespace ShadowIndex

/-- The columns of a row behind its owner. `timed` tells whether there is a time of the last
build. -/
structure Columns where
  fullText : String
  fieldTexts : String
  stale : Int
  timed : Bool
deriving DecidableEq, Repr

namespace Columns

def ofContent (content : Content) : Columns :=
  ⟨content.fullText, Text.Json.object content.fieldTexts.rows, content.stale.toInt, content.built⟩

/-- What columns say, if the texts of fields can be read. Where there is no text there are no
fields. -/
def content? (columns : Columns) : Option Content := do
  let rows ← if columns.fieldTexts = "" then some [] else Text.Json.readObject? columns.fieldTexts
  return ⟨columns.fullText, .ofList rows, decide (columns.stale ≠ 0), columns.timed⟩

/-- Reading gives the content that was written. -/
theorem content?_ofContent (content : Content) : (ofContent content).content? = some content := by
  obtain ⟨fullText, fieldTexts, stale, built⟩ := content
  have sameTexts : Table.ofList fieldTexts.rows = fieldTexts :=
    Table.ext_rows (Table.rows_ofList fieldTexts.nodup)
  simp only [content?, ofContent, Text.Json.object_ne_empty, if_false,
    Text.Json.readObject?_object, Option.bind_eq_bind, Option.bind_some, sameTexts]
  cases stale <;> rfl

/-- Columns whose flag is raised. -/
def asStale (columns : Columns) : Columns := { columns with stale := 1 }

theorem ofContent_asStale {content : Content} {columns : Columns}
    (written : ofContent content = columns) : ofContent content.asStale = columns.asStale := by
  rw [← written]
  rfl

end Columns

/-- A row of the table: a number, and columns that were written for an entry. -/
structure DatabaseRow where
  number : Nat
  columns : Columns
  written : ∃ content, Columns.ofContent content = columns

namespace DatabaseRow

def write (number : Nat) (content : Content) : DatabaseRow :=
  ⟨number, .ofContent content, content, rfl⟩

instance : Inhabited DatabaseRow := ⟨write 0 .placeholder⟩

theorem isSome_content? (row : DatabaseRow) : row.columns.content?.isSome = true := by
  obtain ⟨content, written⟩ := row.written
  rw [← written, Columns.content?_ofContent]
  rfl

/-- The content of a row, which can always be read. -/
def content (row : DatabaseRow) : Content := row.columns.content?.get row.isSome_content?

/-- Raises the flag of a row, and touches no other column. -/
def asStale (row : DatabaseRow) : DatabaseRow where
  number := row.number
  columns := row.columns.asStale
  written := by
    obtain ⟨content, written⟩ := row.written
    exact ⟨content.asStale, Columns.ofContent_asStale written⟩

theorem content_of_written {row : DatabaseRow} {content : Content}
    (written : Columns.ofContent content = row.columns) : row.content = content := by
  unfold DatabaseRow.content
  simp only [← written, Columns.content?_ofContent, Option.get_some]

@[simp] theorem content_write (number : Nat) (content : Content) :
    (write number content).content = content :=
  content_of_written rfl

@[simp] theorem content_asStale (row : DatabaseRow) :
    row.asStale.content = row.content.asStale := by
  obtain ⟨content, written⟩ := row.written
  rw [content_of_written written]
  exact content_of_written (Columns.ofContent_asStale written)

/-- The flag of a row is one or zero. -/
theorem stale_eq_one (row : DatabaseRow) :
    decide (row.columns.stale = 1) = row.content.stale := by
  obtain ⟨content, written⟩ := row.written
  rw [content_of_written written, ← written, Columns.ofContent]
  cases content.stale <;> rfl

end DatabaseRow

end ShadowIndex
