import Souk.Server.WsCommon

/-!
# Reading the record

What core answers about threads, and the rule of this gateway about who may read one.
-/

namespace Souk.Server

open Souk.Python

/-- A thread as core returns it. -/
structure Thread where
  providerKey : Str
  agentName : Str
  deriving DecidableEq

/-- What core answers about the record, at one moment. -/
structure Record where
  getThread : Str → Option Thread
  /-- `None` for a thread nobody bound and for one which does not exist. -/
  partiesOf : Str → Option (List Str)
  getThreadMessages : Str → List Value
  /-- Whether the roster lists the agent of a provider key and a name. -/
  listsAgent : Str → Str → Bool

/-- Core without a thread or an agent. -/
def emptyRecord : Record := ⟨fun _ => none, fun _ => none, fun _ => [], fun _ _ => false⟩

/-- The key is one of the parties; `None` is nobody. -/
def isParty (key : Option Str) (parties : List Str) : Bool :=
  match key with
  | some key => key ∈ parties
  | none => false

/-- The second half of `may_read`: an unbound thread is readable by whoever holds its id. -/
def partiesAdmit (record : Record) (threadId : Str) (key : Option Str) : Bool :=
  match record.partiesOf threadId with
  | none => true
  | some parties => isParty key parties

/-- `may_read`, where core does not change between its two reads. -/
def mayRead (record : Record) (threadId : Str) (key : Option Str) : Bool :=
  match record.getThread threadId with
  | none => false
  | some _ => partiesAdmit record threadId key

end Souk.Server
