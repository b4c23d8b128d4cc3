import Mathlib
import Renko.Csv
import Renko.Proofs.Outcome
import Renko.Text

/-! # From bytes to records

Texts are read from their bytes, and records from a text that ends between two of them.
-/

/-! ## Texts from their bytes

A text is read from the bytes that encode it (`Renko.Utf8.decode?_encode`), and from no others
(`Renko.Utf8.decode?_eq_some`).
-/

namespace Renko.Utf8

/-- The bytes that encode a text. -/
def encode (text : String) : List UInt8 := text.toByteArray.data.toList

/-- A text has as many bytes as its encoding is long. -/
theorem length_encode (text : String) : (encode text).length = text.utf8ByteSize := by
  rw [encode, Array.length_toList, ByteArray.size_data, String.size_toByteArray]

private theorem encode_eq_iff {text : String} {bytes : List UInt8} :
    encode text = bytes ↔ text.toByteArray = bytes.toByteArray := by
  rw [ByteArray.ext_iff, List.data_toByteArray, encode]
  constructor
  · rintro rfl
    rw [Array.toArray_toList]
  · intro same
    rw [same]

/-- Bytes are read as the text that they encode, and as no other. -/
theorem decode?_eq_some {bytes : List UInt8} {text : String} :
    decode? bytes = some text ↔ encode text = bytes := by
  rw [decode?, String.fromUTF8?, encode_eq_iff]
  split
  · rename_i valid
    rw [Option.some.injEq, ← String.toByteArray_inj]
    exact eq_comm
  · rename_i invalid
    exact iff_of_false (fun same => nomatch same) fun same => invalid (same ▸ text.isValidUTF8)

/-- A text is read from its encoding. -/
theorem decode?_encode (text : String) : decode? (encode text) = some text :=
  decode?_eq_some.mpr rfl

/-- Different texts have different encodings. -/
theorem encode_injective : Function.Injective encode := by
  intro first second same
  have decoded := decode?_encode first
  rw [same, decode?_encode] at decoded
  exact (Option.some.inj decoded).symm

end Renko.Utf8

/-! ## What a text says up to a record's end

A text that ends between two records has the same records whatever follows it
(`Renko.Csv.records_append`). So what is wrong with its rows is wrong whatever follows
(`Renko.Csv.Schema.readRows_append_of_error`).
-/

namespace Renko.Csv

/-- The reader at the end of a text. -/
def scan (bytes : List UInt8) : Scanner :=
  match bytes with
  | 0xEF :: 0xBB :: 0xBF :: rest => rest.foldl Scanner.take (.start ⟨3, 1⟩)
  | _ => bytes.foldl Scanner.take (.start .start)

/-- A text whose last record, if it has any, is complete: it ends between two records. -/
def Complete (bytes : List UInt8) : Prop := (scan bytes).place = .lineStart

def byteOrderMark : List UInt8 := [0xEF, 0xBB, 0xBF]

private theorem scan_of_marked (rest : List UInt8) :
    scan (byteOrderMark ++ rest) = rest.foldl Scanner.take (.start ⟨3, 1⟩) := rfl

/-- Bytes without a mark at their start are scanned from the first of them on. -/
theorem scan_of_unmarked {bytes : List UInt8} (unmarked : ¬byteOrderMark <+: bytes) :
    scan bytes = bytes.foldl Scanner.take (.start .start) := by
  unfold scan
  split
  · exact absurd (List.prefix_append byteOrderMark _) unmarked
  · rfl

/-- The records of a text are those of its scan at the end. -/
theorem records_eq_finish (bytes : List UInt8) : records bytes = (scan bytes).finish := by
  unfold records
  split
  · rfl
  · rename_i unmarked
    rw [scan_of_unmarked fun ⟨rest, same⟩ => unmarked rest same.symm]

namespace Scanner

variable {scanner : Scanner}

private theorem records_endRecord (scanner : Scanner) :
    scanner.records <:+ scanner.endRecord.records :=
  List.suffix_cons _ _

private theorem records_takePlain (scanner : Scanner) (byte : UInt8) :
    scanner.records <:+ (scanner.takePlain byte).records := by
  unfold takePlain
  split
  · exact List.suffix_rfl
  · split
    · exact scanner.records_endRecord
    · exact List.suffix_rfl

private theorem records_takeFirst (scanner : Scanner) (byte : UInt8) :
    scanner.records <:+ (scanner.takeFirst byte).records := by
  unfold takeFirst
  split
  · exact List.suffix_rfl
  · exact scanner.records_takePlain byte

/-- **One byte** adds to the records or leaves them. -/
theorem records_take (scanner : Scanner) (byte : UInt8) :
    scanner.records <:+ (scanner.take byte).records := by
  have passed := { scanner with here := scanner.here.pass byte }.records_takeFirst byte
  have plain := { scanner with here := scanner.here.pass byte }.records_takePlain byte
  unfold take
  cases scanner.place with
  | lineStart =>
      dsimp only
      split
      · exact List.suffix_rfl
      · exact passed
  | fieldStart => exact passed
  | inField => exact plain
  | inQuotes =>
      dsimp only
      split <;> exact List.suffix_rfl
  | afterQuote =>
      dsimp only
      split
      · exact List.suffix_rfl
      · exact plain

/-- **A text** adds to the records. -/
theorem records_foldl (bytes : List UInt8) (scanner : Scanner) :
    scanner.records <:+ (bytes.foldl take scanner).records := by
  induction bytes generalizing scanner with
  | nil => exact List.suffix_rfl
  | cons byte bytes inductionHypothesis =>
      exact (scanner.records_take byte).trans (inductionHypothesis (scanner.take byte))

/-- The end of the text may end one more record. -/
theorem records_finish (scanner : Scanner) : scanner.records.reverse <+: scanner.finish := by
  have ended : scanner.records.reverse <+: scanner.endRecord.records.reverse :=
    List.reverse_prefix.mpr scanner.records_endRecord
  unfold finish
  split
  · exact List.prefix_rfl
  · exact ended

end Scanner

/-- A mark at the start of a text stands before the end of its first record. -/
theorem marked_of_append {front later : List UInt8} (complete : Complete front)
    (filled : front ≠ []) (marked : byteOrderMark <+: front ++ later) :
    byteOrderMark <+: front := by
  by_cases long : byteOrderMark.length ≤ front.length
  · exact List.prefix_of_prefix_length_le marked (List.prefix_append front later) long
  · have within : front <+: byteOrderMark :=
      List.prefix_of_prefix_length_le (List.prefix_append front later) marked (by omega)
    -- after one or two bytes of the mark the reader is in a field
    match front, filled, long, within, complete with
    | [_], _, _, within, complete =>
        obtain ⟨rfl, -⟩ := List.cons_prefix_cons.mp within
        cases complete
    | [_, _], _, _, within, complete =>
        obtain ⟨rfl, further⟩ := List.cons_prefix_cons.mp within
        obtain ⟨rfl, -⟩ := List.cons_prefix_cons.mp further
        cases complete
    | _ :: _ :: _ :: _, _, long, _, _ => simp [byteOrderMark] at long

/-- A text that ends between two records is scanned before what follows it. -/
theorem scan_append {front : List UInt8} (complete : Complete front) (filled : front ≠ [])
    (later : List UInt8) : scan (front ++ later) = later.foldl Scanner.take (scan front) := by
  by_cases marked : byteOrderMark <+: front
  · obtain ⟨rest, rfl⟩ := marked
    rw [List.append_assoc, scan_of_marked, scan_of_marked, List.foldl_append]
  · rw [scan_of_unmarked marked, scan_of_unmarked, List.foldl_append]
    exact fun further => marked (marked_of_append complete filled further)

/-- **What follows a complete text** leaves its records as they are. -/
theorem records_append {front : List UInt8} (complete : Complete front) (later : List UInt8) :
    records front <+: records (front ++ later) := by
  by_cases filled : front = []
  · rw [filled]
    exact List.nil_prefix
  · have closed : (scan front).finish = (scan front).records.reverse := by
      rw [Scanner.finish, complete]
    rw [records_eq_finish, records_eq_finish, scan_append complete filled, closed]
    exact (List.reverse_prefix.mpr (Scanner.records_foldl later _)).trans (Scanner.records_finish _)

namespace Schema

variable {ρ τ υ : Type} {schema : Schema ρ τ} {use : Nat → τ → Except RowFault υ}

/-- What is wrong with the first records is wrong with all of them. -/
theorem readRecords_of_prefix {records others : List Record} {fault : RowFault}
    (refused : schema.readRecords use records = .error fault) (starts : records <+: others) :
    schema.readRecords use others = .error fault := by
  obtain ⟨later, rfl⟩ := starts
  cases records with
  | nil => cases refused
  | cons header rows =>
      rw [List.cons_append, readRecords, List.mapM_append, Outcome.bind_eq_error]
      exact .inl refused

/-- **What follows a fault** does not change it. -/
theorem readRows_append_of_error {front : List UInt8} (complete : Complete front) {fault : RowFault}
    (refused : schema.readRows use front = .error fault) (later : List UInt8) :
    schema.readRows use (front ++ later) = .error fault :=
  readRecords_of_prefix refused (records_append complete later)

end Schema

end Renko.Csv
