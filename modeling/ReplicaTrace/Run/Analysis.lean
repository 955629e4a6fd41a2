import ReplicaTrace.Run.Ledger

/-!
# From reports to a history

What the files gave is put into one stream, the registry of servers is fixed, and the events of its
servers are replayed.  Events of other servers are left out and noted.

* `registryFor` : the registry, as given or else of the servers that the stream names.
* `analyse` : the ledger, the registry and the replay for the reports of all files.
-/

namespace ReplicaTrace

/-- Why the reports give no history. -/
inductive AnalysisError where
  /-- None of the files gives an event of a server in the registry. -/
  | noEvents (sources : Nat)
  /-- The servers do not make a registry. -/
  | badRegistry (fault : RegistryError)
  /-- An event names a server that is not in the registry. -/
  | unknownServer (fault : UnknownServer)
deriving DecidableEq, Repr

/-- What is said about the fault. -/
def AnalysisError.message : AnalysisError → String
  | .noEvents sources => s!"no events recovered from {sources} source(s)"
  | .badRegistry fault => s!"invalid server registry: {fault.message}"
  | .unknownServer fault => fault.message

/-- What the reports of all files give together. -/
structure Analysis where
  /-- What is to be said about the input. -/
  ledger : Ledger
  /-- The servers. -/
  registry : Registry
  /-- The history. -/
  replay : Replay

/-- The registry of the given servers, or of those that the stream names if none are given. -/
def registryFor (servers : List ServerId) (stream : List Event) : Except RegistryError Registry :=
  if servers.isEmpty then Registry.discover stream else Registry.ofList? servers

/-- Puts together the reports of all files. -/
def analyse (servers : List ServerId) (reports : List SourceReport) :
    Except AnalysisError Analysis := do
  let ledger := reports.foldl Ledger.absorb {}
  let stream := merge (reports.map SourceReport.events)
  if stream.isEmpty then throw (.noEvents ledger.sources.length)
  let registry ← (registryFor servers stream).mapError .badRegistry
  let ledger := (stream.filter (!registry.knows ·)).foldl Ledger.skipUnknown ledger
  let known := stream.filter registry.knows
  if known.isEmpty then throw (.noEvents ledger.sources.length)
  let replay ← (Replay.run registry known).mapError .unknownServer
  return ⟨ledger.close known replay, registry, replay⟩

end ReplicaTrace
