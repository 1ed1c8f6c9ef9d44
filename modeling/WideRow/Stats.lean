import WideRow.ChangeSet
import WideRow.Sink.Basic

namespace WideRow

structure Stats where
  rows : Nat := 0
  records : Nat := 0
  deletes : DeleteCounts := ⟨0, 0⟩
  skipped : SortedMap Skip Nat := .empty
  columnsDropped : Nat := 0
  groupsDropped : Nat := 0
  backfills : Nat := 0
  rescans : Nat := 0
  deriving DecidableEq

namespace Stats

def addSkips (skips : SortedMap Skip Nat) (reason : Skip) (n : Nat) :
    SortedMap Skip Nat := skips.update reason fun found => found.getD 0 + n

variable (s : Stats)

def withRow : Stats := { s with rows := s.rows + 1 }

def withSkip (reason : Skip) : Stats := { s with skipped := addSkips s.skipped reason 1 }

def withRecords (n : Nat) : Stats := { s with records := s.records + n }

def withDeletes (d : DeleteCounts) : Stats :=
  { s with deletes := ⟨s.deletes.key + d.key, s.deletes.group + d.group⟩ }

def withRead : Read → Stats
  | .nothing => s
  | .backfill _ => { s with backfills := s.backfills + 1 }
  | .rescan => { s with rescans := s.rescans + 1 }

def withDropped (columns groups : Nat) : Stats :=
  { s with
    columnsDropped := s.columnsDropped + columns
    groupsDropped := s.groupsDropped + groups }

def merge (t : Stats) : Stats where
  rows := s.rows + t.rows
  records := s.records + t.records
  deletes := ⟨s.deletes.key + t.deletes.key, s.deletes.group + t.deletes.group⟩
  skipped := t.skipped.entries.foldl (fun m e => addSkips m e.1 e.2) s.skipped
  columnsDropped := s.columnsDropped + t.columnsDropped
  groupsDropped := s.groupsDropped + t.groupsDropped
  backfills := s.backfills + t.backfills
  rescans := s.rescans + t.rescans

def json : Json :=
  Json.members [
    ("rows_seen", .nat s.rows),
    ("records_written", .nat s.records),
    ("deletes", Json.members [
      ("whole_key", .nat s.deletes.key), ("group", .nat s.deletes.group)]),
    ("skipped", Json.members (s.skipped.entries.map fun (reason, n) => (reason.name, .nat n))),
    ("unrecognized_columns", .nat s.columnsDropped),
    ("malformed_groups", .nat s.groupsDropped),
    ("backfills", .nat s.backfills),
    ("rescans", .nat s.rescans)]

end Stats

end WideRow
