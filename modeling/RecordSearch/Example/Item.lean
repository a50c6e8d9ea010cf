import RecordSearch.Filter.Boolean
import RecordSearch.Filter.Collection
import RecordSearch.Filter.Comparable
import RecordSearch.Filter.Enumeration
import RecordSearch.Filter.Text
import RecordSearch.Table

/-! A worked example: items, with a column of every type that records can have, and a
specification for searching them. -/
namespace RecordSearch.Example

inductive Status
  | opened | closed | archived
  deriving DecidableEq, Repr

namespace Status

def discriminant : Status → UInt32
  | opened => 0
  | closed => 1
  | archived => 7

def name : Status → String
  | opened => "open"
  | closed => "closed"
  | archived => "archived"

def ofName? (s : String) : Option Status := [opened, closed, archived].find? fun v => v.name == s

end Status

structure Item where
  name : String
  byname : Option String
  label : String
  tiny : Int8
  count : Int32
  size : UInt64
  price : Binary64
  ratio : Binary64
  rank : Option Int64
  createdAt : Timestamp
  closed : Option Timestamp
  status : Status
  previous : Option Status
  active : Bool
  verified : Option Bool
  tags : List String
  scores : Option (List Int32)
  triple : UInt8 × UInt8 × UInt8
  window : List Binary64
  queue : List Bool
  words : List String
  codes : List Int32

namespace Item

def table : RecordTable Item where
  columns :=
    [.plain "name" .string name,
      .plain "alias" (.optional .string) Item.byname,
      .plain "label" .string label,
      .plain "tiny" .int8 tiny,
      .plain "count" .int32 count,
      .plain "size" .word64 size,
      .plain "price" .double price,
      .plain "ratio" .single ratio,
      .plain "rank" (.optional .int64) rank,
      .plain "created_at" .timestamp createdAt,
      .plain "closedAt" (.optional .timestamp) closed,
      .enum "status" fun i => some i.status.discriminant,
      .enum "previous" fun i => i.previous.map Status.discriminant,
      .plain "active" .bool active,
      .plain "verified" (.optional .bool) verified,
      .list "labels" .sequence .string fun i => some i.tags,
      .list "scores" .sequence .int32 scores,
      .list "triple" .sequence .word8 fun i => some [i.triple.1, i.triple.2.1, i.triple.2.2],
      .list "window" .sequence .double fun i => some i.window,
      .list "queue" .sequence .bool fun i => some i.queue,
      .list "words" .set .string fun i => some i.words,
      .list "codes" .set .int32 fun i => some i.codes]

instance : Record Item where
  value := table.value

def schema : Schema := table.schema

end Item

structure ItemSearch where
  limit : Option UInt32
  name : Option TextFilter
  byname : TextFilter
  tiny : Option (ComparableFilter OperandType.int16)
  count : Option (ComparableFilter OperandType.int32)
  size : Option (ComparableFilter OperandType.word64)
  offset : Int32
  price : Option (ComparableFilter OperandType.double)
  ratio : Option (ComparableFilter OperandType.single)
  rank : Option (ComparableFilter OperandType.int64)
  createdAt : ComparableFilter OperandType.timestamp
  closed : Option (ComparableFilter OperandType.timestamp)
  status : EnumFilter
  previous : Option EnumFilter
  active : Option BooleanFilter
  labelFilter : Option (CollectionFilter OperandType.string)
  scores : Option (CollectionFilter OperandType.int32)
  window : Option (CollectionFilter OperandType.double)
  words : Option Filter
  verified : Option Bool
  label : Option String
  secret : Option String
  third : Option UInt8
  nickname : Option TextFilter
  offsetText : Option String
  limitReal : Option Binary64

namespace ItemSearch

def table : SpecificationTable ItemSearch where
  entries :=
    [.scalar "limit" .take (.optional .word32) limit,
      .filter "name" fun s => s.name.map TextFilter.toFilter,
      .filter "alias" fun s => some s.byname.toFilter,
      .filter "tiny" fun s => s.tiny.map ComparableFilter.toFilter,
      .filter "count" fun s => s.count.map ComparableFilter.toFilter,
      .filter "size" fun s => s.size.map ComparableFilter.toFilter,
      .scalar "offset" .skip .int32 offset,
      .filter "price" fun s => s.price.map ComparableFilter.toFilter,
      .filter "ratio" fun s => s.ratio.map ComparableFilter.toFilter,
      .filter "rank" fun s => s.rank.map ComparableFilter.toFilter,
      .filter "created_at" fun s => some s.createdAt.toFilter,
      .filter "closedAt" fun s => s.closed.map ComparableFilter.toFilter,
      .filter "status" fun s => some s.status.toFilter,
      .filter "previous" fun s => s.previous.map EnumFilter.toFilter,
      .filter "active" fun s => s.active.map BooleanFilter.toFilter,
      .filter "labels" fun s => s.labelFilter.map CollectionFilter.toFilter,
      .filter "scores" fun s => s.scores.map CollectionFilter.toFilter,
      .filter "window" fun s => s.window.map CollectionFilter.toFilter,
      .filter "words" words,
      .scalar "verified" .plain (.optional .bool) verified,
      .scalar "label" .plain (.optional .string) label,
      .scalar "secret" .plain (.optional .string) secret,
      .scalar "triple" .plain (.optional .word8) third,
      .filter "nickname" fun s => s.nickname.map TextFilter.toFilter,
      .scalar "offset_text" .skip (.optional .string) offsetText,
      .scalar "max" .take (.optional .double) limitReal]

def specification : ItemSearch → Specification := table.specification

end ItemSearch
end RecordSearch.Example
