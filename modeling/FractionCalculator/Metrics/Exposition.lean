import FractionCalculator.Metrics

/-!
# Exposition of metrics

Each kind of count is a family with a name, a help text and a type. A count is
shown under a key, the name with the label's two values in braces; backslashes,
quotes and line feeds in a value are escaped, so different labels have different
keys. A label that uses the counts of an older one has nothing shown under its
keys.

The text is that of the library's encoder. It is taken to escape these three
characters, as documented, and to fail on no registry. Of the timings only their
number is shown here.
-/

namespace FractionCalculator.Metrics

structure Family where
  name : Text
  help : Text
  kind : Text
  suffix : Text
  count : Counts → Nat

def timedFamily : Family :=
  ⟨"query_duration_seconds".toList, "Time spent answering a query".toList, "histogram".toList,
    "_count".toList, Counts.timed⟩

def failureFamily : Family :=
  ⟨"query_failure_total".toList,
    "Queries that failed for a reason other than invalid input".toList, "counter".toList, [],
    Counts.failure⟩

def successFamily : Family :=
  ⟨"query_success_total".toList,
    "Queries answered, including those rejected as invalid input".toList, "counter".toList, [],
    Counts.success⟩

def families : List Family :=
  [timedFamily, failureFamily, successFamily]

def Family.headers (f : Family) : List Text :=
  ["# HELP ".toList ++ f.name ++ ' ' :: f.help, "# TYPE ".toList ++ f.name ++ ' ' :: f.kind]

def escapeValue (c : Char) : Text :=
  match c with
  | '\\' => ['\\', '\\']
  | '"' => ['\\', '"']
  | '\n' => ['\\', 'n']
  | c => [c]

def writeValue (name value : Text) : Text :=
  name ++ ['=', '"'] ++ value.flatMap escapeValue ++ ['"']

def Label.text (l : Label) : Text :=
  writeValue "app_layer".toList l.layer ++ ',' :: writeValue "class_function".toList l.function

def Family.key (f : Family) (l : Label) : Text :=
  f.name ++ f.suffix ++ '\x7b' :: l.text ++ ['\x7d']

abbrev Samples := List (Text × Nat)

namespace Registry

variable {κ : Type}

def headers (r : Registry κ) : List Text :=
  if r.entries = [] then [] else families.flatMap Family.headers

def samples (r : Registry κ) : Samples :=
  r.entries.flatMap fun (label, n) => families.map fun f => (f.key label, f.count n)

def encode (r : Registry κ) : Except Text Samples :=
  .ok r.samples

def shown (r : Registry κ) (label : Label) : List (Text × Option Nat) :=
  families.map fun f => (f.key label, r.samples.lookup (f.key label))

end Registry
end FractionCalculator.Metrics
