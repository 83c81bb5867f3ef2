/- module: DddBoilerplate/Import/CsvFile
   generality: I
   digest: The text of a table as a comma-separated file, and the parser that reads it row by row. -/

import DddBoilerplate.Import.Types

set_option autoImplicit false
set_option relaxedAutoImplicit false
set_option linter.all false

namespace DddBoilerplate.Import

open Text

section Characters

def lineFeed : Char := Char.ofNat 0x0A

def carriageReturn : Char := Char.ofNat 0x0D

def doubleQuote : Char := Char.ofNat 0x22

end Characters

namespace ImportFileParser

section Parsing

/-- A character in front of the first line. -/
def onFirst (c : Char) : List (List Char) → List (List Char)
  | [] => [[c]]
  | line :: lines => (c :: line) :: lines

/-- `.split(/\r?\n/)` -/
def splitLines : List Char → List (List Char)
  | [] => [[]]
  | c :: rest =>
    if c = lineFeed then [] :: splitLines rest
    else if c = carriageReturn ∧ rest.head? = some lineFeed then splitLines rest
    else onFirst c (splitLines rest)

/-- The loop of `splitCsvLine`: the field it is in, whether in quotes, and whether the next character
is passed over. -/
def splitFields (cur : List Char) (inQuotes skip : Bool) : List Char → List (List Char)
  | [] => [cur]
  | c :: rest =>
    if skip then splitFields cur inQuotes false rest
    else if c = doubleQuote then
      if inQuotes ∧ rest.head? = some doubleQuote then
        splitFields (cur ++ [doubleQuote]) inQuotes true rest
      else splitFields cur (!inQuotes) false rest
    else if c = ',' ∧ inQuotes = false then cur :: splitFields [] inQuotes false rest
    else splitFields (cur ++ [c]) inQuotes false rest

def splitCsvLine (line : List Char) : List String :=
  (splitFields [] false false line).map String.ofList

/-- `/^-?\d+(\.\d+)?$/` -/
def isNumericish (cell : String) : Bool :=
  let digits := match cell.toList with
    | '-' :: rest => rest
    | chars => chars
  match digits.takeWhile Char.isDigit, digits.dropWhile Char.isDigit with
  | [], _ => false
  | _, [] => true
  | _, '.' :: fraction => !fraction.isEmpty && fraction.all Char.isDigit
  | _, _ => false

/-- Two cells at least are not empty, and less than half of those are numbers. -/
def looksLikeLabels (row : List String) : Bool :=
  let cells := (row.map trim).filter (· ≠ "")
  2 ≤ cells.length && 2 * cells.countP isNumericish < cells.length

def detectHeaderRow (matrix : List (List String)) : Nat :=
  ((matrix.take 30).findIdx? looksLikeLabels).getD 0

/-- The texts of a line under the keys of the columns; a column without a key is passed over. -/
def textsUnder : List String → List String → Record
  | [], _ => []
  | key :: keys, line =>
    if key = "" then textsUnder keys line.tail
    else (key, trim (line.headD "")) :: textsUnder keys line.tail

/-- `values[key] = text`; a text is no prototype, and is not kept under that name. -/
def setText (values : Record) (entry : String × String) : Record :=
  if entry.1 = "__proto__" then values else values.assign entry.1 entry.2

/-- The loop of `materialize`, from the line `i` on, with the number of rows it has. -/
def readRows (maxRows : Nat) (headerCells : List String) :
    Nat → Nat → List (List String) → List ParsedRow
  | _, _, [] => []
  | i, count, line :: lines =>
    if maxRows ≤ count then []
    else
      let texts := textsUnder headerCells line
      if texts.all (·.2 = "") then readRows maxRows headerCells (i + 1) count lines
      else ⟨i + 1, texts.foldl setText []⟩ :: readRows maxRows headerCells (i + 1) (count + 1) lines

def materialize (matrix : List (List String)) (maxRows : Nat) : ParsedSpreadsheet :=
  let headerRowIndex := detectHeaderRow matrix
  let headerCells := ((matrix[headerRowIndex]?).getD []).map trim
  { headers := headerCells.filter (· ≠ "")
    rows := readRows maxRows headerCells (headerRowIndex + 1) 0 (matrix.drop (headerRowIndex + 1)) }

/-- `parseCsv`, of the decoded text. -/
def parseCsv (text : String) (maxRows : Nat) : ParsedSpreadsheet :=
  materialize (((splitLines text.toList).filter (· ≠ [])).map splitCsvLine) maxRows

end Parsing

end ImportFileParser

section Encoding

/-- A cell with a comma, a quote or a part of a line break in it. -/
def needsQuotes (cell : String) : Bool :=
  cell.toList.any fun c => c = ',' || c = doubleQuote || c = carriageReturn || c = lineFeed

/-- The characters of a cell, with its quotes doubled. -/
def escaped (chars : List Char) : List Char :=
  chars.flatMap fun c => if c = doubleQuote then [doubleQuote, doubleQuote] else [c]

/-- A field, quoted where it has to be. -/
def encodeCell (cell : String) : List Char :=
  if needsQuotes cell then doubleQuote :: (escaped cell.toList ++ [doubleQuote]) else cell.toList

/-- A record: its fields with commas in between. -/
def encodeRow : List String → List Char
  | [] => []
  | [cell] => encodeCell cell
  | cell :: cells => encodeCell cell ++ ',' :: encodeRow cells

/-- A file: its records with line breaks in between, and one behind the last or none. -/
def encodeFile (final : Bool) : List (List String) → List Char
  | [] => []
  | [row] => encodeRow row ++ if final then [carriageReturn, lineFeed] else []
  | row :: rows => encodeRow row ++ carriageReturn :: lineFeed :: encodeFile final rows

/-- A blank line, as a row of a file. -/
def blankLine : List String := [""]

/-- The cells of a file, with the row that holds the labels. A blank line is a row with one empty
cell; every record has a cell for every label. -/
structure CsvTable where
  before : List (List String)
  header : List String
  records : List (List String)
  before_ne : ∀ row ∈ before, row ≠ []
  header_ne : header ≠ []
  shape : ∀ row ∈ records, row = blankLine ∨ row.length = header.length
  label_ne : ∀ label ∈ header.map trim, label ≠ ""
  distinct : (header.map trim).Nodup
  recognised : ImportFileParser.detectHeaderRow
    ((before ++ header :: records).filter (· ≠ blankLine)) =
      (before.filter (· ≠ blankLine)).length

namespace CsvTable

variable (table : CsvTable)

def rows : List (List String) := table.before ++ table.header :: table.records

def labels : List String := table.header.map trim

/-- A record with nothing to read in it. -/
def isBlank (row : List String) : Bool := row.all fun cell => trim cell = ""

/-- The trimmed cells of a record under their labels, with the number of the record in the file. -/
def entry (row : List String) (i : Nat) : ParsedRow :=
  ⟨i + 1, table.labels.zip (row.map trim)⟩

/-- An entry for each record that is not blank, up to a number of them. -/
def entries (maxRows : Nat) : List ParsedRow :=
  (((table.records.zipIdx (table.before.length + 1)).filter fun r => !isBlank r.1).take
    maxRows).map fun r => table.entry r.1 r.2

/-- No cell has a line feed in it. -/
def NoLineFeed : Prop := ∀ row ∈ table.rows, ∀ cell ∈ row, lineFeed ∉ cell.toList

/-- A record that is not blank and that fewer than `maxRows` such records precede has no blank line
in front of it, and its columns have no label that names the prototype. -/
def Undisturbed (maxRows : Nat) : Prop := ∀ front row back, table.records = front ++ row :: back →
  isBlank row = false → front.countP (fun r => !isBlank r) < maxRows →
    blankLine ∉ table.before ++ front ∧ "__proto__" ∉ table.labels

/-- The parser returns the entries of the table. -/
def DecodesBack (final : Bool) (maxRows : Nat) : Prop :=
  (ImportFileParser.parseCsv (String.ofList (encodeFile final table.rows)) maxRows).rows =
    table.entries maxRows

end CsvTable

end Encoding

end DddBoilerplate.Import
