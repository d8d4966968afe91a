import FarmRegistry.Sql.Database

namespace FarmRegistry.Sql

structure Script where
  answers : List Answer
  onBegin : Answer
  onCommit : Answer
  log : List Statement

namespace Script

def ofAnswers (answers : List Answer) : Script :=
  ⟨answers, .nothing, .nothing, []⟩

def next (s : Script) : Answer × Script :=
  match s.answers with
  | [] => (.nothing, s)
  | a :: rest => (a, { s with answers := rest })

def answer (s : Script) : Statement → Answer × Script
  | .begin => (s.onBegin, s)
  | .commit => (s.onCommit, s)
  | .rollback => (.nothing, s)
  | _ => s.next

def database : Database Script := fun statement s =>
  { s with log := s.log ++ [statement] }.answer statement

end Script

end FarmRegistry.Sql
