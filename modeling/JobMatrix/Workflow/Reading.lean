import JobMatrix.Workflow
import JobMatrix.Yaml.AnyValue

/-!
Reading a declaration from a YAML document. Each record is collected in a draft that holds the fields met
so far; fields that a declaration leaves out get their defaults when the draft is completed.
-/
namespace JobMatrix
open Yaml (Decoder)

/-- Why a text is no declaration: it is no YAML at all, or not of the right shape. -/
inductive ReadError
  | notYaml (problem : Yaml.Problem)
  | misshapen (fault : Yaml.Fault)

/-- The message where errors of several kinds meet. -/
def ReadError.message : ReadError → String
  | notYaml problem => "YAML error: " ++ problem.message
  | misshapen fault => "YAML error: " ++ fault.message

namespace ToolchainAxis

structure Draft where
  axis : Option String
  pinned : Option String
  version : Option (Option String)
  stable : Option String

def decoder : Decoder ToolchainAxis :=
  Decoder.record "ToolchainAxis"
    (fun (d : Draft) name =>
      match name with
      | "axis" => Decoder.once name d.axis Decoder.text fun v => { d with axis := some v }
      | "pinned" => Decoder.once name d.pinned Decoder.text fun v => { d with pinned := some v }
      | "version" =>
        Decoder.once name d.version (Decoder.optional Decoder.text) fun v => { d with version := some v }
      | "stable" => Decoder.once name d.stable Decoder.text fun v => { d with stable := some v }
      | _ => Decoder.skip d)
    ⟨none, none, none, none⟩
    (fun d => .ok
      ⟨d.axis.getD standard.axis, d.pinned.getD standard.pinned, d.version.getD standard.version,
        d.stable.getD standard.stable⟩)

end ToolchainAxis

namespace Gate

structure Draft where
  toolchain : Option (Option Toolchain)
  values : Option (Table String)
  triggers : Option (List Trigger)

def toolchains : List (String × Toolchain) := [("stable", .stable), ("pinned", .pinned)]

def triggerNames : List (String × Trigger) :=
  [("push", .push), ("pull-request", .pullRequest), ("pull_request", .pullRequest),
    ("schedule", .schedule), ("manual", .manual), ("workflow_dispatch", .manual)]

def decoder : Decoder Gate :=
  Decoder.record "Gate"
    (fun (d : Draft) name =>
      match name with
      | "toolchain" =>
        Decoder.once name d.toolchain (Decoder.optional (Decoder.variant toolchains)) fun v =>
          { d with toolchain := some v }
      | "matrix" =>
        Decoder.once name d.values (Decoder.table Decoder.text) fun v => { d with values := some v }
      | "event" =>
        Decoder.once name d.triggers (Decoder.sequence (Decoder.variant triggerNames)) fun v =>
          { d with triggers := some v }
      | _ => Decoder.skip d)
    ⟨none, none, none⟩
    (fun d => .ok ⟨d.toolchain.join, d.values.getD Table.empty, d.triggers.getD []⟩)

end Gate

namespace Step

structure Draft where
  name : Option String
  command : Option String
  gate : Option (Option Gate)
  shell : Option (Option Shell)
  env : Option (Table String)
  directory : Option (Option String)

def shells : List (String × Shell) :=
  [("default", .sh), ("sh", .sh), ("bash", .bash), ("pwsh", .pwsh)]

def Draft.finish (d : Draft) : Except Yaml.Mismatch Step :=
  match d.name, d.command with
  | none, _ => .error (.missingField "name")
  | some _, none => .error (.missingField "run")
  | some name, some command =>
    .ok ⟨name, command, d.gate.join, d.shell.join, d.env.getD Table.empty, d.directory.join⟩

def decoder : Decoder Step :=
  Decoder.record "Step"
    (fun (d : Draft) name =>
      match name with
      | "name" => Decoder.once name d.name Decoder.text fun v => { d with name := some v }
      | "run" => Decoder.once name d.command Decoder.text fun v => { d with command := some v }
      | "when" =>
        Decoder.once name d.gate (Decoder.optional Gate.decoder) fun v => { d with gate := some v }
      | "shell" =>
        Decoder.once name d.shell (Decoder.optional (Decoder.variant shells)) fun v =>
          { d with shell := some v }
      | "env" => Decoder.once name d.env (Decoder.table Decoder.text) fun v => { d with env := some v }
      | "working-directory" =>
        Decoder.once name d.directory (Decoder.optional Decoder.text) fun v =>
          { d with directory := some v }
      | _ => Decoder.skip d)
    ⟨none, none, none, none, none, none⟩ Draft.finish

end Step

namespace Workflow

structure Draft where
  name : Option (Option String)
  env : Option (Table String)
  toolchain : Option (Option ToolchainAxis)
  maxParallel : Option (Option Nat)
  matrix : Option (Table (List Yaml.Value))
  steps : Option (List Step)

def decoder : Decoder Workflow :=
  Decoder.record "Workflow"
    (fun (d : Draft) name =>
      match name with
      | "name" =>
        Decoder.once name d.name (Decoder.optional Decoder.text) fun v => { d with name := some v }
      | "env" => Decoder.once name d.env (Decoder.table Decoder.text) fun v => { d with env := some v }
      | "toolchain" =>
        Decoder.once name d.toolchain (Decoder.optional ToolchainAxis.decoder) fun v =>
          { d with toolchain := some v }
      | "max-parallel" =>
        Decoder.once name d.maxParallel (Decoder.optional Decoder.word) fun v =>
          { d with maxParallel := some v }
      | "matrix" =>
        Decoder.once name d.matrix (Decoder.table (Decoder.sequence Decoder.any)) fun v =>
          { d with matrix := some v }
      | "steps" =>
        Decoder.once name d.steps (Decoder.sequence Step.decoder) fun v => { d with steps := some v }
      | _ => Decoder.skip d)
    ⟨none, none, none, none, none, none⟩
    (fun d => .ok
      ⟨d.name.join, d.env.getD Table.empty, d.toolchain.join, d.maxParallel.join,
        d.matrix.getD Table.empty, d.steps.getD []⟩)

def ofText (text : String) : Except ReadError Workflow :=
  match Yaml.Document.ofText text with
  | .error problem => .error (.notYaml problem)
  | .ok document => (decoder.run document).mapError .misshapen

end Workflow
end JobMatrix
