import NodeLink.Session.Call
/-!
# Lines

The calls of a session in the order in which they were issued.  One of them
holds the session, those behind it wait in line, and the others are done.  A
call that ends hands the session to the first in line.
-/

namespace NodeLink.Session

open NodeLink.Rehearsal (LinkId)

structure Line where
  generation : Nat
  isShutDown : Bool
  holder : Option CallId
  waiting : List CallId
  calls : List Call

namespace Line

def initial : Line :=
  { generation := 0, isShutDown := false, holder := none, waiting := [], calls := [] }

def held? (line : Line) : Option Call :=
  line.holder.bind (line.calls[·]?)

/-- Whether a newer call was issued after a call. -/
def isOvertaken (line : Line) (call : Call) : Bool :=
  line.generation ≠ call.generation

def issued (line : Line) (request : Request) : Call :=
  { request, generation := line.generation + 1, link := none, stage := .queued }

/-- Issues a call.  It holds the session if no other call does, and takes its
place at the end of the line otherwise. -/
def issue (line : Line) (request : Request) : Line :=
  let id := line.calls.length
  { generation := line.generation + 1
    isShutDown := line.isShutDown || request == Request.shutdown
    holder := line.holder.or (some id)
    waiting := if line.holder.isSome then line.waiting ++ [id] else line.waiting
    calls := line.calls ++ [line.issued request] }

def setStage (line : Line) (id : CallId) (stage : Stage) : Line :=
  { line with calls := line.calls.modify id fun call => { call with stage } }

def setBound (line : Line) (id : CallId) (link : LinkId) (deadline : Instant) : Line :=
  { line with
    calls := line.calls.modify id fun call =>
      { call with link := some link, stage := .bound link deadline } }

/-- Ends a call; the session goes to the next one in line. -/
def finish (line : Line) (id : CallId) (result : Except Error Unit) : Line :=
  { line.setStage id (.done result) with
    holder := line.waiting.head?
    waiting := line.waiting.tail }

end Line

end NodeLink.Session
