import Souk.PodProbeAgent.Probe

/-!
# What leaves the pod

The brain gathers a fixed report and has a model interpret it, if it can reach one.  The report
has the environment without the values of the variables whose names look like those of secrets, so
that neither the model nor whoever asked learns anything of them.  The variables the probe is
configured by are apart: its own API key goes to the model it calls.
-/

namespace Souk.PodProbeAgent

open Souk.Python Souk.Go

/-- A literal of the program. -/
def literal (text : String) : GoString := text.toList.flatMap String.utf8EncodeChar

/-- Functions of the Go standard library which depend on its tables of characters and time zones. -/
structure Tables where
  /-- `strings.ToUpper` -/
  toUpper : GoString → GoString
  /-- `strings.TrimSpace` -/
  trimSpace : GoString → GoString
  /-- `t.Format(time.RFC3339)` -/
  formatTime : Int → GoString

/-- What the probes of one `gather` read; the start of the pod is read twice. -/
structure Pod where
  found : Option (DirEntry FileInfo)
  started : Option Int
  startedAgain : Option Int
  /-- The names in `/proc`, and what the `comm` below each holds, or the error. -/
  processes : Except GoString (List (GoString × Option GoString))
  environ : List GoString

/-! ## Processes -/

/-- The value of some decimal digits. -/
def digitsValue (digits : GoString) : Option Nat :=
  digits.foldlM (fun value digit =>
    if 48 ≤ digit ∧ digit ≤ 57 then some (10 * value + (digit.toNat - 48)) else none) 0

/-- `strconv.Atoi` -/
def atoi (text : GoString) : Option Int := do
  let (sign, digits) : Int × GoString := match text with
    | 43 :: digits => (1, digits)
    | 45 :: digits => (-1, digits)
    | digits => (1, digits)
  if digits = [] then none
  let value := sign * (← digitsValue digits)
  if -2 ^ 63 ≤ value ∧ value < 2 ^ 63 then some value else none

/-- `%d` -/
def decimalText (value : Int) : GoString := toBytes (Json.intText value)

variable (tables : Tables)

/-- `processList`, once `/proc` is read. -/
def processList (entries : List (GoString × Option GoString)) : List GoString :=
  entries.filterMap fun (name, comm) => do
    let pid ← atoi name
    return decimalText pid ++ 32 :: tables.trimSpace (← comm)

/-! ## The environment -/

/-- `strings.Cut(text, "=")` -/
def cut (text : GoString) : Option (GoString × GoString) :=
  match text.dropWhile (· ≠ 61) with
  | _ :: value => some (text.takeWhile (· ≠ 61), value)
  | [] => none

/-- The marks of a secret in the name of a variable. -/
def secretMarks : List GoString :=
  ["KEY", "SECRET", "TOKEN", "PASSWORD", "PASSWD", "CREDENTIAL", "PRIVATE"].map literal

/-- `looksSecret` -/
def looksSecret (key : GoString) : Bool :=
  secretMarks.any fun mark => mark <:+: tables.toUpper key

/-- One round of the loop of `envSummary`. -/
def redact (entry : GoString) : Option GoString :=
  (cut entry).map fun (key, value) =>
    key ++ 61 :: if looksSecret tables key then literal "<redacted>" else value

/-- `envSummary` -/
def envSummary (environ : List GoString) : List GoString :=
  (environ.filterMap (redact tables)).insertionSort (· ≤ ·)

/-! ## The report -/

/-- `%8d` -/
def padded (value : Int) : GoString :=
  List.replicate (8 - (decimalText value).length) 32 ++ decimalText value

/-- The marker of a file, which is empty unless the file was modified after the pod started. -/
def marker (started : Option Int) (fact : FileFact) : GoString :=
  match started with
  | some time => if time < fact.modTime then literal "  <-- MODIFIED AFTER POD START" else []
  | none => []

/-- The line of a file. -/
def fileLine (started : Option Int) (fact : FileFact) : GoString :=
  literal "  " ++ tables.formatTime fact.modTime ++ literal "  " ++ padded fact.size ++
    literal "  " ++ fact.path ++ marker started fact ++ literal "\n"

/-- An indented line. -/
def indented (text : GoString) : GoString := literal "  " ++ text ++ literal "\n"

/-- `gather` -/
def gather (sortSlice : List FileFact → List FileFact) (root : GoString) (pod : Pod) : GoString :=
  let newest := newestFiles sortSlice root pod.found 15
  literal "Pod state probe of " ++ root ++ literal "\n" ++
    (match pod.started with
      | some time =>
          literal "Pod (pid 1) started around: " ++ tables.formatTime time ++ literal "\n"
      | none => literal "Pod start time: could not determine\n") ++
    literal "\nMost recently modified files (a file changed after the pod started is an edit to " ++
    literal "a running pod, not something from the image):\n" ++
    (if newest = [] then literal "  no files found under " ++ root ++ literal "\n"
      else newest.flatMap (fileLine tables pod.startedAgain)) ++
    literal "\nProcesses:\n" ++
    (match pod.processes with
      | .error error => literal "  could not read /proc: " ++ error ++ literal "\n"
      | .ok entries => (processList tables entries).flatMap indented) ++
    literal "\nEnvironment (secret-shaped values redacted):\n" ++
    (envSummary tables pod.environ).flatMap indented

/-! ## The model -/

/-- `LLMClient`, with the signing of its identity. -/
structure LLMClient where
  baseURL : GoString
  apiKey : GoString
  model : GoString
  soukKyokURL : GoString
  sign : GoString → GoString

/-- A completion call, as it is sent. -/
structure Request where
  url : GoString
  headers : List (GoString × GoString)
  body : GoString

/-- What becomes of a call. -/
inductive HttpReply where
  /-- It cannot be made, or has no response. -/
  | failed (error : GoString)
  | answered (status : GoString) (ok : Bool) (body : GoString)

/-- What a call of a model rests on. -/
structure Network where
  /-- `time.Now().Unix()` -/
  now : Int
  sha256 : GoString → List UInt8
  /-- `json.Marshal` of a request with a model, a system prompt and the words of the user. -/
  marshal : GoString → GoString → GoString → GoString
  post : Request → HttpReply
  /-- `json.Unmarshal` of a response: the contents of its choices. -/
  choices : GoString → Except GoString (List GoString)

/-- `kyokCallPayload` -/
def kyokCallPayload (bearer : GoString) (timestamp : Int) (bodyHash : GoString) : GoString :=
  literal "funduq-kyok-call:" ++ bearer ++ literal ":" ++ decimalText timestamp ++ literal ":" ++
    bodyHash

/-- `endpoint` -/
def LLMClient.endpoint (client : LLMClient) (network : Network) (kyok : Option GoString)
    (body : GoString) : GoString × List (GoString × GoString) :=
  match kyok with
  | some (unit :: units) =>
      let token := unit :: units
      let bodyHash := toBytes (hexEncode (network.sha256 body))
      (client.soukKyokURL,
        [(literal "Content-Type", literal "application/json"),
         (literal "Authorization", literal "Bearer " ++ token),
         (literal "X-Souk-Kyok-Timestamp", decimalText network.now),
         (literal "X-Souk-Kyok-Signature",
           client.sign (kyokCallPayload token network.now bodyHash))])
  | some [] | none =>
      (client.baseURL,
        (literal "Content-Type", literal "application/json") ::
          if client.apiKey = [] then []
          else [(literal "Authorization", literal "Bearer " ++ client.apiKey)])

/-- The prompt which has the model answer from the report alone. -/
def systemPrompt : GoString :=
  literal ("You interpret read-only diagnostic facts gathered from inside a Kubernetes pod. " ++
    "You are given a fixed report and a question. Answer only from the report. " ++
    "If the report does not contain what the question asks, say so plainly — never guess or " ++
    "invent file contents, times, or processes. " ++
    "Pay particular attention to files modified after the pod started: those indicate someone " ++
    "changed a running pod by hand.")

/-- `truncate` -/
def truncate (text : GoString) (length : Nat) : GoString :=
  if text.length ≤ length then text else text.take length ++ literal "…"

/-- The request of `Interpret`. -/
def LLMClient.request (client : LLMClient) (network : Network) (question facts : GoString)
    (kyok : Option GoString) : Request :=
  let asked := if question = [] then
      literal ("Summarize the state of this pod and flag anything modified after the pod " ++
        "started.")
    else question
  let body := network.marshal client.model systemPrompt
    (literal "Question: " ++ asked ++ literal "\n\n--- read-only pod report ---\n" ++ facts)
  let (url, headers) := client.endpoint network kyok body
  ⟨url, headers, body⟩

/-- What `Interpret` makes of a reply. -/
def Network.read (network : Network) : HttpReply → Except GoString GoString
  | .failed error => .error error
  | .answered status false body =>
      .error (literal "model endpoint answered " ++ status ++ literal ": " ++ truncate body 300)
  | .answered _ true body =>
      match network.choices body with
      | .error error => .error (literal "model response did not parse: " ++ error)
      | .ok [] => .error (literal "model returned no choices")
      | .ok (content :: _) => .ok content

/-- `Brain`, with the order `sort.Slice` puts files of the same time in. -/
structure Brain where
  root : GoString
  llm : Option LLMClient
  sortSlice : List FileFact → List FileFact

/-! ## The configuration -/

/-- `os.Getenv`, where the first of two entries of a name counts. -/
def getenv (environ : List GoString) (key : GoString) : GoString :=
  (environ.findSome? fun entry => do
    let (name, value) ← cut entry
    if name = key then some value else none).getD []

/-- `env` -/
def env (environ : List GoString) (key : String) (fallback : GoString) : GoString :=
  match getenv environ (literal key) with
  | [] => fallback
  | unit :: units => unit :: units

/-- `config`, as far as the brain rests on it. -/
structure Config where
  identityPath : GoString
  probeRoot : GoString
  llmBaseURL : GoString
  llmAPIKey : GoString
  llmModel : GoString
  soukKyokURL : GoString

/-- `loadConfig` -/
def loadConfig (environ : List GoString) : Config where
  identityPath := env environ "SOUK_IDENTITY_KEY_PATH" (literal "/data/probe_identity.key")
  probeRoot := env environ "PROBE_ROOT" (literal "/app")
  llmBaseURL := env environ "LLM_BASE_URL" []
  llmAPIKey := env environ "LLM_API_KEY" []
  llmModel := env environ "LLM_MODEL_NAME" (literal "gpt-4")
  soukKyokURL :=
    env environ "SOUK_KYOK_URL"
      ((env environ "SOUK_HTTP_URL" (literal "http://souk:8000")).rdropWhile (· = 47) ++
        literal "/kyok/v1/chat/completions")

/-- The variables among these. -/
def configured : List GoString :=
  ["SOUK_IDENTITY_KEY_PATH", "PROBE_ROOT", "LLM_BASE_URL", "LLM_API_KEY", "LLM_MODEL_NAME",
    "SOUK_KYOK_URL", "SOUK_HTTP_URL"].map literal

/-- The brain `main` makes of the environment, where the identity of a path signs. -/
def mainBrain (signAs : GoString → GoString → GoString)
    (sortSlice : List FileFact → List FileFact) (environ : List GoString) : Brain :=
  let cfg := loadConfig environ
  { root := cfg.probeRoot
    llm :=
      if cfg.llmBaseURL ≠ [] ∨ cfg.soukKyokURL ≠ [] then
        some ⟨cfg.llmBaseURL, cfg.llmAPIKey, cfg.llmModel, cfg.soukKyokURL, signAs cfg.identityPath⟩
      else none
    sortSlice }

/-- The client of a run for which `canInterpret` holds. -/
def Brain.interpreter (brain : Brain) (kyok : Option GoString) : Option LLMClient :=
  brain.llm.bind fun client =>
    if kyok.getD [] ≠ [] ∨ client.baseURL ≠ [] then some client else none

/-- `Answer`: the call of the model, if there is one, and the answer, which is never an error. -/
def Brain.answer (brain : Brain) (network : Network) (pod : Pod) (question : GoString)
    (kyok : Option GoString) : Option Request × GoString :=
  let report := gather tables brain.sortSlice brain.root pod
  match brain.interpreter kyok with
  | none => (none, report)
  | some client =>
      let request := client.request network question report kyok
      match network.read (network.post request) with
      | .ok interpreted => (some request, interpreted)
      | .error error =>
          (some request, report ++
            literal "\n\n(could not reach a model to interpret these facts: " ++ error ++
            literal ")")

/-! ## Secrets -/

/-- Two entries are of the same variable, whose name looks like that of a secret, or are the
same. -/
def SameButSecret (entry other : GoString) : Prop :=
  entry = other ∨ ∃ key value different, cut entry = some (key, value) ∧
    cut other = some (key, different) ∧ looksSecret tables key = true

/-- Two environments differ in the values of secrets and in their order only. -/
def Alike (environ other : List GoString) : Prop :=
  ∃ middle, environ.Perm middle ∧ List.Forall₂ (SameButSecret tables) middle other

/-- A line of the report is that of a variable: the entry itself, or its name alone. -/
def LineOf (line entry : GoString) : Prop :=
  ∃ key value, cut entry = some (key, value) ∧
    if looksSecret tables key then line = key ++ literal "=<redacted>" else line = entry

/-- The report ends with the lines of the variables of an environment, in order and indented. -/
def Lists (report : GoString) (environ : List GoString) : Prop :=
  ∃ (before : GoString) (lines : List GoString),
    report = before ++ lines.flatMap indented ∧ lines.Pairwise (· ≤ ·) ∧
      ∀ line, line ∈ lines ↔ ∃ entry ∈ environ, LineOf tables line entry

/-- What leaves a pod whose brain has made of one report a request, if any, and an answer. -/
structure Answers (network : Network) (report : GoString) (sent : Option Request × GoString) :
    Prop where
  /-- Whoever asked is told the report, where no model is. -/
  uninterpreted : sent.1 = none → sent.2 = report
  /-- A model is told the report, and whoever asked what it makes of it or the report once more. -/
  interpreted : ∀ request, sent.1 = some request →
    (∃ model asked, request.body = network.marshal model systemPrompt
      (literal "Question: " ++ asked ++ literal "\n\n--- read-only pod report ---\n" ++ report)) ∧
      (network.read (network.post request) = .ok sent.2 ∨ report <+: sent.2)

/-- What a pod lets out of its environment. -/
structure Discreet (signAs : GoString → GoString → GoString)
    (sortSlice : List FileFact → List FileFact) (network : Network) (pod : Pod)
    (question : GoString) (kyok : Option GoString) : Prop where
  /-- Neither the model nor whoever asked can tell which values the secrets have, but for what the
  probe is configured by. -/
  same : ∀ other, Alike tables pod.environ other →
    (∀ name ∈ configured, getenv other name = getenv pod.environ name) →
    (mainBrain signAs sortSlice other).answer tables network { pod with environ := other } question
        kyok =
      (mainBrain signAs sortSlice pod.environ).answer tables network pod question kyok
  /-- Both are told every other variable as it is, and of a secret its name. -/
  lines : ∃ report, Lists tables report pod.environ ∧ Answers network report
    ((mainBrain signAs sortSlice pod.environ).answer tables network pod question kyok)

section Secrets

variable {tables} {entry other line : GoString} {environ others : List GoString}

theorem cut_eq_some {key value : GoString} (found : cut entry = some (key, value)) :
    entry = key ++ 61 :: value := by
  unfold cut at found
  split at found
  · rename_i mark rest dropped
    obtain ⟨rfl, rfl⟩ := Prod.mk.inj (Option.some.inj found)
    have first : mark = 61 := by
      have stops := List.head?_dropWhile_not (fun unit : UInt8 => decide (unit ≠ 61)) entry
      rw [dropped] at stops
      simpa using stops
    calc
      entry = entry.takeWhile (· ≠ 61) ++ entry.dropWhile (· ≠ 61) :=
        List.takeWhile_append_dropWhile.symm
      _ = entry.takeWhile (· ≠ 61) ++ 61 :: rest := by rw [dropped, first]
  · cases found

theorem literal_redacted : literal "=<redacted>" = 61 :: literal "<redacted>" := rfl

/-- The line of an entry is either of the two, as its name has it. -/
theorem redact_eq {key value : GoString} (found : cut entry = some (key, value)) :
    redact tables entry =
      some (if looksSecret tables key then key ++ literal "=<redacted>" else entry) := by
  rw [redact, found, Option.map_some, literal_redacted]
  dsimp only
  split
  · rfl
  · rw [cut_eq_some found]

theorem redact_eq_some : redact tables entry = some line ↔ LineOf tables line entry := by
  have told : ∀ key value, cut entry = some (key, value) → (redact tables entry = some line ↔
      if looksSecret tables key then line = key ++ literal "=<redacted>" else line = entry) := by
    intro key value found
    rw [redact_eq found, Option.some_inj, eq_comm]
    split <;> rfl
  constructor
  · intro redacted
    obtain ⟨⟨key, value⟩, found, _⟩ := Option.map_eq_some_iff.mp redacted
    exact ⟨key, value, found, (told key value found).mp redacted⟩
  · rintro ⟨key, value, found, line_eq⟩
    exact (told key value found).mpr line_eq

theorem SameButSecret.redact (same : SameButSecret tables entry other) :
    redact tables entry = redact tables other := by
  obtain rfl | ⟨key, value, different, found, found_other, secret⟩ := same
  · rfl
  · rw [PodProbeAgent.redact, PodProbeAgent.redact, found, found_other]
    simp only [Option.map_some, secret, if_true]

theorem Alike.envSummary (alike : Alike tables environ others) :
    envSummary tables others = envSummary tables environ := by
  obtain ⟨middle, perm, same⟩ := alike
  have redacted : middle.filterMap (PodProbeAgent.redact tables) =
      others.filterMap (PodProbeAgent.redact tables) := by
    clear perm
    induction same with
    | nil => rfl
    | cons first _ induction =>
        rw [List.filterMap_cons, List.filterMap_cons, first.redact, induction]
  rw [PodProbeAgent.envSummary, ← redacted, PodProbeAgent.envSummary]
  exact OrderedCode.insertionSort_eq_of_perm (perm.symm.filterMap _)

theorem Alike.gather {sortSlice : List FileFact → List FileFact} {root : GoString} {pod : Pod}
    (alike : Alike tables pod.environ others) :
    gather tables sortSlice root { pod with environ := others } =
      gather tables sortSlice root pod := by
  simp only [PodProbeAgent.gather, alike.envSummary]

/-- The environment has its lines at the end of the report. -/
theorem lists_gather (sortSlice : List FileFact → List FileFact) (root : GoString) (pod : Pod) :
    Lists tables (PodProbeAgent.gather tables sortSlice root pod) pod.environ := by
  refine ⟨_, PodProbeAgent.envSummary tables pod.environ, rfl, ?_, fun line => ?_⟩
  · exact List.pairwise_insertionSort _ _
  · rw [PodProbeAgent.envSummary, List.mem_insertionSort, List.mem_filterMap]
    exact exists_congr fun entry => and_congr_right' redact_eq_some

/-- The configuration rests on its own variables alone. -/
theorem loadConfig_congr
    (agree : ∀ name ∈ configured, getenv others name = getenv environ name) :
    loadConfig others = loadConfig environ := by
  have agreed {key : String} {fallback : GoString} (among : literal key ∈ configured) :
      env others key fallback = env environ key fallback := by
    rw [env, env, agree _ among]
  simp only [loadConfig, configured, agreed, List.map_cons, List.mem_cons, true_or, or_true]

/-- The report and nothing else of the pod is what the brain answers from. -/
theorem Brain.answers (brain : Brain) (network : Network) (pod : Pod) (question : GoString)
    (kyok : Option GoString) :
    Answers network (PodProbeAgent.gather tables brain.sortSlice brain.root pod)
      (brain.answer tables network pod question kyok) := by
  cases interpreter : brain.interpreter kyok with
  | none =>
      simp only [Brain.answer, interpreter]
      refine ⟨fun _ => rfl, ?_⟩
      rintro request ⟨⟩
  | some client =>
      have body (report : GoString) : ∃ model asked,
          (client.request network question report kyok).body =
            network.marshal model systemPrompt (literal "Question: " ++ asked ++
              literal "\n\n--- read-only pod report ---\n" ++ report) := ⟨_, _, rfl⟩
      simp only [Brain.answer, interpreter]
      split
      · rename_i interpreted read
        refine ⟨(Option.some_ne_none _ · |>.elim), ?_⟩
        rintro request ⟨⟩
        exact ⟨body _, .inl read⟩
      · refine ⟨(Option.some_ne_none _ · |>.elim), ?_⟩
        rintro request ⟨⟩
        refine ⟨body _, .inr ?_⟩
        rw [List.append_assoc, List.append_assoc]
        exact List.prefix_append _ _

end Secrets

/-- Whatever the pod holds, whatever is asked and whichever model answers in whatever way: what is
sent to the model and what is answered do not depend on the values of the variables whose names
look like those of secrets, unless the probe is configured by them, and the report which both are
told has every other variable as it is. -/
theorem answer_discreet (signAs : GoString → GoString → GoString)
    (sortSlice : List FileFact → List FileFact) (network : Network) (pod : Pod)
    (question : GoString) (kyok : Option GoString) :
    Discreet tables signAs sortSlice network pod question kyok where
  same other alike agree := by
    have brain : mainBrain signAs sortSlice other = mainBrain signAs sortSlice pod.environ := by
      rw [mainBrain, mainBrain, loadConfig_congr agree]
    rw [brain]
    simp only [Brain.answer, alike.gather]
  lines := ⟨_, lists_gather _ _ pod, Brain.answers _ network pod question kyok⟩

/-! A pod with a token in its environment, and another with a different one. -/

/-- Tables which leave every text as it is. -/
def plainTables : Tables := ⟨id, id, fun _ => []⟩

/-- A network on which every call fails. -/
def deadNetwork : Network :=
  ⟨0, fun _ => [], fun _ _ user => user, fun _ => .failed [], fun _ => .ok []⟩

def tokenPod : Pod where
  found := none
  started := none
  startedAgain := none
  processes := .ok []
  environ := ["DB_TOKEN=a", "LLM_BASE_URL=http://llm"].map literal

def otherEnviron : List GoString := ["LLM_BASE_URL=http://llm", "DB_TOKEN=b"].map literal

theorem alike_otherEnviron : Alike plainTables tokenPod.environ otherEnviron := by
  refine ⟨_, List.Perm.swap _ _ _, .cons (.inl rfl) (.cons (.inr ?_) .nil)⟩
  exact ⟨literal "DB_TOKEN", literal "a", literal "b", by decide, by decide, by decide⟩

theorem configured_otherEnviron :
    ∀ name ∈ configured, getenv otherEnviron name = getenv tokenPod.environ name := by
  decide +kernel

/-- The model which both call is told the same. -/
theorem token_untold :
    (mainBrain (fun _ => id) id otherEnviron).answer plainTables deadNetwork
        { tokenPod with environ := otherEnviron } [] none =
      (mainBrain (fun _ => id) id tokenPod.environ).answer plainTables deadNetwork tokenPod []
        none :=
  (answer_discreet plainTables (fun _ => id) id deadNetwork tokenPod [] none).same otherEnviron
    alike_otherEnviron configured_otherEnviron

end Souk.PodProbeAgent
