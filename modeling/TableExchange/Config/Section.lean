import TableExchange.Config.Model
import TableExchange.Config.Value

/-!
The sections of the configuration, read from layered values. Scalars are converted to the types of
their fields; a missing field takes its default.
-/

namespace TableExchange

open ConfigValue (orElse optional toText? toWord? toVariant?)

def ConfigValue.required {α : Type} (read : ConfigValue → Option α) :
    Option ConfigValue → Option α
  | some v => read v
  | none => none

def ServiceConfig.ofValue? (v : ConfigValue) : Option ServiceConfig := do
  match ← v.fields ServiceConfig.fieldNames with
  | [e, p, s, a, t, l] =>
    return {
      endpoint := ← ConfigValue.required toText? e
      project := ← ConfigValue.required toText? p
      schema := ← orElse toText? "default" s
      accessToken := ← optional toText? a
      requestTimeoutMs := ← orElse toWord? 60000 t
      logViewHost := ← optional toText? l }
  | _ => none

def PollConfig.ofValue? (v : ConfigValue) : Option PollConfig := do
  match ← v.fields PollConfig.fieldNames with
  | [i, t] => return ⟨← orElse toWord? 3000 i, ← orElse toText? "console_sqlrt_task" t⟩
  | _ => none

def DataFormat.ofValue? (v : ConfigValue) : Option DataFormat := do
  match ← v.fields ["type", "version"] with
  | [t, w] =>
    return ⟨← ConfigValue.required (toVariant? DataLayout.wireNames) t,
      ← ConfigValue.required (toVariant? DataVersion.wireNames) w⟩
  | _ => none

def WriterConfig.ofValue? (v : ConfigValue) : Option WriterConfig := do
  match ← v.fields WriterConfig.fieldNames with
  | [d, p] =>
    return ⟨← orElse DataFormat.ofValue? {} d,
      ← orElse (toVariant? ConflictPolicy.wireNames) .reject p⟩
  | _ => none

def ClientConfig.ofValue? (v : ConfigValue) : Option ClientConfig := do
  match ← v.fields ClientConfig.fieldNames with
  | [s, p, w] =>
    return ⟨← ConfigValue.required ServiceConfig.ofValue? s, ← orElse PollConfig.ofValue? {} p,
      ← orElse WriterConfig.ofValue? {} w⟩
  | _ => none

end TableExchange
