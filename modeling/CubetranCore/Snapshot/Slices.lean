import CubetranCore.Meta.Data
import Mathlib.Order.Defs.LinearOrder

namespace CubetranCore.Snapshot

/-- The column types `get_col_value` matches on; `unknown` stands for every variant of `ColType`
that its `_ => {}` arm takes (the declaration of `ColType` is not under src/). -/
inductive ColType where
  | tiny
  | unsignedTiny
  | short
  | unsignedShort
  | long
  | unsignedLong
  | longLong
  | unsignedLongLong
  | float
  | double
  | decimal
  | time
  | date
  | dateTime
  | timestamp
  | year
  | string
  | binary
  | varBinary
  | blob
  | bit
  | set
  | enum
  | json
  | unknown
  deriving DecidableEq, Repr

structure ColMeta where
  name : String
  typee : ColType
  deriving DecidableEq, Repr

structure TbMeta where
  db : String
  tb : String
  colMetaMap : List (String × ColMeta)
  orderCol : Option String
  deriving DecidableEq, Repr

/-- What `get_col_value` reads of a `MySqlRow` through sqlx, and the `ColValue` parsers it calls;
none of them is under src/. -/
structure RowReader (R : Type) where
  getUnchecked : R → String → Option (List UInt8)
  getUncheckedString : R → String → String
  tryGetI8 : R → String → Except Error (BitVec 8)
  tryGetU8 : R → String → Except Error UInt8
  tryGetI16 : R → String → Except Error (BitVec 16)
  tryGetU16 : R → String → Except Error UInt16
  tryGetI32 : R → String → Except Error (BitVec 32)
  tryGetU32 : R → String → Except Error UInt32
  tryGetI64 : R → String → Except Error (BitVec 64)
  tryGetU64 : R → String → Except Error UInt64
  tryGetF32 : R → String → Except Error UInt32
  tryGetF64 : R → String → Except Error UInt64
  tryGetString : R → String → Except Error String
  tryGetBytes : R → String → Except Error (List UInt8)
  parseTime : List UInt8 → Except Error ColValue
  parseDate : List UInt8 → Except Error ColValue
  parseDatetime : List UInt8 → Except Error ColValue
  parseTimestamp : List UInt8 → Except Error ColValue

variable {R : Type}

def getColValue (rd : RowReader R) (row : R) (colMeta : ColMeta) : Except Error ColValue :=
  match rd.getUnchecked row colMeta.name with
  | none => .ok .none
  | some value =>
    match colMeta.typee with
    | .tiny => .tiny <$> rd.tryGetI8 row colMeta.name
    | .unsignedTiny => .unsignedTiny <$> rd.tryGetU8 row colMeta.name
    | .short => .short <$> rd.tryGetI16 row colMeta.name
    | .unsignedShort => .unsignedShort <$> rd.tryGetU16 row colMeta.name
    | .long => .long <$> rd.tryGetI32 row colMeta.name
    | .unsignedLong => .unsignedLong <$> rd.tryGetU32 row colMeta.name
    | .longLong => .longLong <$> rd.tryGetI64 row colMeta.name
    | .unsignedLongLong => .unsignedLongLong <$> rd.tryGetU64 row colMeta.name
    | .float => .float <$> rd.tryGetF32 row colMeta.name
    | .double => .double <$> rd.tryGetF64 row colMeta.name
    | .decimal => .ok (.decimal (rd.getUncheckedString row colMeta.name))
    | .time => rd.parseTime value
    | .date => rd.parseDate value
    | .dateTime => rd.parseDatetime value
    | .timestamp => rd.parseTimestamp value
    | .year => .year <$> rd.tryGetU16 row colMeta.name
    | .string | .binary | .varBinary | .blob => .blob <$> rd.tryGetBytes row colMeta.name
    | .bit => .bit <$> rd.tryGetU64 row colMeta.name
    | .set => .set2 <$> rd.tryGetString row colMeta.name
    | .enum => .enum2 <$> rd.tryGetString row colMeta.name
    | .json => .ok (.json value)
    | .unknown => .ok .none

def rowImage (rd : RowReader R) (row : R) : List (String × ColMeta) → ColMap → Except Error ColMap
  | [], after => .ok after
  | (colName, colMeta) :: cols, after => do
      let colVal ← getColValue rd row colMeta
      rowImage rd row cols (after.insert colName colVal)

/-- The row `push_row_to_buffer` builds from a `MySqlRow` and pushes. -/
def snapshotRow (rd : RowReader R) (tbMeta : TbMeta) (row : R) : Except Error RowData := do
  let after ← rowImage rd row tbMeta.colMetaMap ∅
  pure ⟨tbMeta.db, tbMeta.tb, .insert, none, some after, 0⟩

/-- The table as the queries of `extract_by_slices` see it: its rows in `order by order_col ASC`
order, and the server's `order_col > ?` test of a row against a bound value. -/
structure SliceDb (R : Type) where
  table : List R
  gt : R → ColValue → Bool

inductive SliceQuery where
  | sql1
  | sql2 (startValue : ColValue)
  deriving DecidableEq, Repr

def SliceDb.fetch (db : SliceDb R) (sliceSize : Nat) : SliceQuery → List R
  | .sql1 => db.table.take sliceSize
  | .sql2 startValue => (db.table.filter (db.gt · startValue)).take sliceSize

def sliceQuery (startValue : ColValue) : SliceQuery :=
  match startValue with
  | .none => .sql1
  | startValue => .sql2 startValue

structure SliceState where
  startValue : ColValue
  buffer : List RowData
  queries : List SliceQuery
  finished : Bool

section Loop

variable (db : SliceDb R) (sliceSize : Nat) (rd : RowReader R) (tbMeta : TbMeta)
  (orderColMeta : ColMeta)

/-- The inner loop over one slice: push each row, then take its order value as the next start. -/
def pushSlice : List R → SliceState → Nat → Except Fault (SliceState × Nat)
  | [], st, sliceCount => .ok (st, sliceCount)
  | row :: rows, st, sliceCount => do
      let rowData ← unwrap (snapshotRow rd tbMeta row)
      let startValue ← unwrap (getColValue rd row orderColMeta)
      pushSlice rows { st with buffer := st.buffer ++ [rowData], startValue := startValue }
        (sliceCount + 1)

/-- One turn of the slice loop of `extract_by_slices`. -/
def sliceStep (st : SliceState) : Except Fault SliceState := do
  let query := sliceQuery st.startValue
  let (st, sliceCount) ← pushSlice rd tbMeta orderColMeta (db.fetch sliceSize query)
    { st with queries := st.queries ++ [query] } 0
  pure { st with finished := decide (sliceCount < sliceSize) }

/-- At most `fuel` turns of the slice loop. -/
def runSlices : Nat → SliceState → Except Fault SliceState
  | 0, st => .ok st
  | fuel + 1, st =>
    if st.finished then .ok st
    else do
      let st ← sliceStep db sliceSize rd tbMeta orderColMeta st
      runSlices fuel st

def extractBySlices (fuel : Nat) (initStartValue : ColValue) : Except Fault SliceState :=
  runSlices db sliceSize rd tbMeta orderColMeta fuel ⟨initStartValue, [], [], false⟩

end Loop

end CubetranCore.Snapshot
