import CubetranCore.Meta.Data

namespace CubetranCore.PgCdc

inductive TupleData where
  | null
  | text (value : List UInt8)
  | unchangedToast
  deriving DecidableEq, Repr

structure Column where
  name : String
  typeId : UInt32
  deriving DecidableEq, Repr

structure RelationBody where
  relId : UInt32
  nspace : String
  name : String
  columns : List Column
  deriving DecidableEq, Repr

structure InsertBody where
  relId : UInt32
  tuple : List TupleData
  deriving DecidableEq, Repr

structure UpdateBody where
  relId : UInt32
  oldTuple : Option (List TupleData)
  keyTuple : Option (List TupleData)
  newTuple : List TupleData
  deriving DecidableEq, Repr

structure DeleteBody where
  relId : UInt32
  oldTuple : Option (List TupleData)
  keyTuple : Option (List TupleData)
  deriving DecidableEq, Repr

inductive LogicalReplicationMessage where
  | relation (body : RelationBody)
  | begin
  | commit
  | origin
  | truncate
  | type
  | insert (body : InsertBody)
  | update (body : UpdateBody)
  | delete (body : DeleteBody)
  | other
  deriving DecidableEq, Repr

structure PrimaryKeepAliveBody where
  walEnd : UInt64
  timestamp : Int
  reply : UInt8
  deriving DecidableEq, Repr

inductive ReplicationMessage where
  | xLogData (data : LogicalReplicationMessage)
  | primaryKeepAlive (data : PrimaryKeepAliveBody)
  | other
  deriving DecidableEq, Repr

def ReplicationMessage.dmlKind : ReplicationMessage → Option RowType
  | .xLogData (.insert _) => some .insert
  | .xLogData (.update _) => some .update
  | .xLogData (.delete _) => some .delete
  | _ => none

def ReplicationMessage.relationBody? : ReplicationMessage → Option RelationBody
  | .xLogData (.relation body) => some body
  | _ => none

/-- A `PrimaryKeepAlive` with `reply() == 1`. -/
def ReplicationMessage.requestsReply : ReplicationMessage → Bool
  | .primaryKeepAlive data => data.reply == 1
  | _ => false

def hexDigit (c : Char) : Option Nat :=
  if '0' ≤ c ∧ c ≤ '9' then some (c.toNat - '0'.toNat)
  else if 'a' ≤ c ∧ c ≤ 'f' then some (c.toNat - 'a'.toNat + 10)
  else if 'A' ≤ c ∧ c ≤ 'F' then some (c.toNat - 'A'.toNat + 10)
  else none

/-- `u64::from_str_radix(s, 16)`: an optional `+`, then at least one hexadecimal digit, the value
below 2^64. -/
def parseHexU64 (s : List Char) : Option UInt64 :=
  let digits := match s with
    | '+' :: digits => digits
    | digits => digits
  if digits = [] then none
  else do
    let n ← digits.foldlM (fun n c => (16 * n + ·) <$> hexDigit c) 0
    if n < 18446744073709551616 then some (UInt64.ofNat n) else none

/-- `PgLsn::from_str` of postgres-types, which is not under src/: the text around the first `/`,
each half a 64-bit hexadecimal number, combined as `(hi << 32) | lo`. -/
def PgLsn.parse (s : String) : Option UInt64 :=
  match s.toList.span (· ≠ '/') with
  | (hi, '/' :: lo) => do
      let hi ← parseHexU64 hi
      let lo ← parseHexU64 lo
      some ((hi <<< 32) ||| lo)
  | _ => none

theorem pgLsn_parse_hard_coded : PgLsn.parse "0/2C280E70" = some 0x2C280E70 := by
  decide

structure StandbyStatusUpdate where
  writeLsn : UInt64
  flushLsn : UInt64
  applyLsn : UInt64
  ts : Int
  reply : UInt8
  deriving DecidableEq, Repr

end CubetranCore.PgCdc
