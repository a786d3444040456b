import ConfigGate.Access.Handle
import ConfigGate.Http.Response
import ConfigGate.Log.Journal
import ConfigGate.Log.Preview
import ConfigGate.Settings.Basic

/-! The state of a server, and the computations that answer requests on it. -/
namespace ConfigGate.Http

/-- A server between two requests. -/
structure Server where
  settings : Settings
  site : Site
  world : World
  ids : Trace.IdSource
  /-- Everything that has been reported, in its order. -/
  entries : List Log.Entry

namespace Server

/-- A server that has not answered any request. -/
def new (settings : Settings) (site : Site) (tree : Tree) : Server :=
  ⟨settings, site, World.initial tree, ⟨0⟩, []⟩

/-- What accesses depend on. -/
def setting (server : Server) : Setting :=
  ⟨server.site, Service.ofSettings server.settings, none⟩

def report (server : Server) (context : Trace.Context) (event : Log.Event) : Server :=
  { server with entries := server.entries ++ [Log.Entry.ofEvent context event] }

/-- The journal of what has been reported, as the settings set it up. -/
def journal (server : Server) : Log.Journal :=
  (Log.Journal.closed.configure (Log.thresholdRank server.settings.logLevel.name)).writeAll
    server.entries

/-- The tree with the directory and the files of the journal, which are empty if they were not there. -/
def withJournalFiles (server : Server) : Tree :=
  let working := server.site.working
  let directory := Path.parse server.settings.logDir
  server.journal.files.foldl
    (fun tree file => tree.ensureFile working (directory.child file.name))
    (server.world.tree.makePath working directory)

/-- Set the journal up, and report that the server starts. -/
def start (server : Server) : Server :=
  let world := { server.world with tree := server.withJournalFiles }
  { server with world }.report .unset (.started server.settings.environment.name server.settings.port
    server.settings.configDir server.settings.hiddenNames.size)

/-- Report that the server stops. -/
def stop (server : Server) : Server :=
  server.report .unset .stopped

end Server

/-- What keeps a request from being answered. -/
inductive Cause where
  /-- An access failed in a way that no client is meant to see. -/
  | access (failure : Failure)
  /-- The body cannot be shown in the log. -/
  | preview (fault : Log.PreviewFault)
deriving DecidableEq, Repr

namespace Cause

/-- The family of errors that the cause belongs to. -/
def family : Cause → String
  | .access failure => failure.family
  | .preview fault => fault.family

/-- The last line of the record of a cause. -/
def record : Cause → String
  | .access failure => failure.record
  | .preview fault => fault.record

end Cause

/-- A cause, and the identifier of the request if it has been found. -/
structure Crash where
  cause : Cause
  requestId : String
deriving DecidableEq, Repr

/-- A part of answering a request. It may crash, and what it did before stays done. -/
abbrev Serving := ExceptT Crash (StateM Server)

namespace Serving

def report (context : Trace.Context) (event : Log.Event) : Serving Unit :=
  modify fun server => server.report context event

/-- Set identifiers, and take new ones where none are given. -/
def identify (step : Trace.IdSource → Trace.Context × Trace.IdSource) : Serving Trace.Context :=
  modifyGet fun server =>
    let (context, ids) := step server.ids
    (context, { server with ids })

/-- Run an access. What it reports carries the identifiers of the request. -/
def access {α : Type} (context : Trace.Context) (act : Setting → Act α) :
    Serving (Except Failure α) :=
  modifyGet fun server =>
    let (result, world) := (act server.setting).run.run { server.world with events := [] }
    let entries := world.events.map (Log.Entry.ofEvent context)
    (result, { server with world, entries := server.entries ++ entries })

end Serving

end ConfigGate.Http
