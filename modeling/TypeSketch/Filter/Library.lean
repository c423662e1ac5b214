import TypeSketch.Filter.Builtin
import TypeSketch.Filter.Parser

/-!
# The library of filters

* `Library.source` : the filters of the library that are written as filters themselves;
* `Library.definitions` : their definitions;
* `Library.forms` : the filters whose arguments are filters and that the evaluator runs itself;
* `Library.provides` : whether a name is in the library.
-/

namespace TypeSketch.Filter

namespace Library

/-- The filters of the library that are written as filters themselves. -/
def source : String := "
def null: [][0];
def true: 0 == 0;
def false: 0 != 0;
def not: if . then false else true end;
def nan: 0 / 0;
def infinite: 1 / 0;
def type:
  if . == null then \"null\"
  elif . == true or . == false then \"boolean\"
  elif . < \"\" then \"number\"
  elif . < [] then \"string\"
  elif . < \x7b\x7d then \"array\"
  else \"object\" end;
def isboolean: type == \"boolean\";
def isnumber: type == \"number\";
def isstring: type == \"string\";
def isarray: type == \"array\";
def isobject: type == \"object\";
def isnan: . < nan and nan < .;
def isinfinite: . == infinite or . == -infinite;
def isfinite: isnumber and (isinfinite | not);
def isnormal: isnumber and ((. == 0 or isnan or isinfinite) | not);
def select(f): if f then . else empty end;
def values: select(. != null);
def nulls: select(. == null);
def booleans: select(isboolean);
def numbers: select(isnumber);
def strings: select(isstring);
def arrays: select(isarray);
def objects: select(isobject);
def iterables: select(. >= []);
def scalars: select(. < []);
def tostring: if isstring then . else tojson end;
def tonumber: if isnumber then . else fromjson end;
def toarray: if isarray then . else [.] end;
def error(f): (f | error), .;
def debug: .;
def debug(f): (f | empty), .;
def stderr: .;
def recurse(f): def walked: ., (f | walked); walked;
def recurse: recurse(.[]?);
def recurse(f; condition): recurse(f | select(condition));
def repeat(f): def repeated: f, repeated; repeated;
def while(condition; next): def run: if condition then ., (next | run) else empty end; run;
def until(condition; next): def run: if condition then . else next | run end; run;
def range($stop): range(0; $stop);
def range($start; $stop): range($start; $stop; 1);
def first: .[0];
def last: .[-1];
def nth(n): .[n];
def nth(n; f): last(limit(n + 1; f));
def skip($n; f): if $n > 0 then foreach f as $x ($n; . - 1; if . < 0 then $x else empty end) else f end;
def isempty(f): first((f | false), true);
def any(f; condition): isempty(first(f | condition | select(.))) | not;
def all(f; condition): isempty(first(f | condition | select(. | not)));
def any(f): any(.[]; f);
def all(f): all(.[]; f);
def any: any(.);
def all: all(.);
def add(f): reduce f as $x (null; . + $x);
def add: add(.[]);
def in(xs): . as $x | xs | has($x);
def inside(xs): . as $x | xs | contains($x);
def index($x): indices($x) | .[0];
def rindex($x): indices($x) | .[-1];
def map(f): [.[] | f];
def map_values(f): .[] |= f;
def walk(f): def walked: (.[]? |= walked) | f; walked;
def keys: keys_unsorted | sort;
def to_entries: [keys_unsorted[] as $key | \x7bkey: $key, value: .[$key]\x7d];
def from_entries: map(\x7b(.key): .value\x7d) | add + \x7b\x7d;
def with_entries(f): to_entries | map(f) | from_entries;
def del(f): f |= empty;
def paths: path(..) | select(. != []);
def paths(f): path(.. | select(f)) | select(. != []);
def leaf_paths: paths(scalars);
def getpath($path): reduce $path[] as $key (.; .[$key]);
def sort: sort_by(.);
def unique_by(f): [group_by(f)[] | .[0]];
def unique: unique_by(.);
def min: min_by(.);
def max: max_by(.);
def flatten: [recurse(arrays | .[]) | select(isarray | not)];
def flatten($depth): if $depth > 0 then map(if isarray then flatten($depth - 1) else [.] end) | add else . end;
def transpose: (map(length) | max // 0) as $n | [range($n) as $i | [.[][$i]]];
def combinations: if . == [] then [] else .[0][] as $x | (.[1:] | combinations) as $rest | [$x] + $rest end;
def combinations(n): [limit(n; repeat(.))] | combinations;
def abs: if . < 0 then -. else . end;
def join($between): map(tostring) | .[:-1][] += $between | add + \"\";
def ascii: [.] | implode;
def trimstr($x): ltrimstr($x) | rtrimstr($x);
def todate: todateiso8601;
def date: todate;
def fromdate: fromdateiso8601;
def object_of_captures: [.[] | select(has(\"name\")) | \x7bkey: .name, value: .string\x7d] | from_entries;
def test($regex; $flags): matches($regex; $flags) != [];
def test($regex): test($regex; \"\");
def match($regex; $flags): matches($regex; $flags)[] | .[0] + \x7bcaptures: .[1:]\x7d;
def match($regex): match($regex; \"\");
def capture($regex; $flags): matches($regex; $flags)[] | object_of_captures;
def capture($regex): capture($regex; \"\");
def scan($regex; $flags): matches($regex; $flags)[] | .[0].string;
def scan($regex): scan($regex; \"\");
def split($between): if isstring and ($between | isstring) then . / $between
  else error(\"split input and separator must be strings\") end;
def split($regex; $flags): split_($regex; \"g\" + $flags);
def splits($regex; $flags): split($regex; $flags)[];
def splits($regex): splits($regex; \"\");
def sub($regex; f; $flags): reduce split_matches($regex; $flags)[] as $x
  (\"\"; . + ($x | if isstring then . else object_of_captures | f end));
def sub($regex; f): sub($regex; f; \"\");
def gsub($regex; f; $flags): sub($regex; f; \"g\" + $flags);
def gsub($regex; f): gsub($regex; f; \"\");
def cell(f; none): if . >= \"\" then f elif . == null then none else tojson end;
def @text: tostring;
def @json: tojson;
def @html: tostring | escape_html;
def @uri: tostring | escape_uri;
def @csv: [.[] | cell(\"\\\"\" + escape_csv + \"\\\"\"; \"\")] | join(\",\");
def @tsv: [.[] | cell(escape_tsv; \"\")] | join(\"\\t\");
def @sh: [if isarray then .[] else . end | cell(\"'\" + escape_sh + \"'\"; \"null\")] | join(\" \");
def @base64: tostring | encode_base64;
def @base64d: tostring | decode_base64;
"

/-- The definitions of the filters in a text, none if it holds anything else. -/
def definitionsOf (text : String) : List Definition :=
  let s := text.toList
  match tokenize s with
  | .error _ => []
  | .ok tokens =>
    match Parse.runAll [] (Parse.definitions (4 * s.length + 4)) tokens with
    | .ok definitions => definitions
    | .error _ => []

/-- The definitions of the library. -/
def definitions : List Definition := definitionsOf source

/-- The filters that the evaluator runs itself, with their numbers of arguments. -/
def forms : List (String × Nat) :=
  [("empty", 0), ("error", 0), ("input", 0), ("inputs", 0), ("path", 1), ("first", 1), ("last", 1), ("limit", 2),
    ("range", 3), ("sort_by", 1), ("group_by", 1), ("min_by", 1), ("max_by", 1)]

/-- Whether a filter is in the library. -/
def provides (name : String) (arity : Nat) : Bool :=
  definitions.any (fun | .mk n params _ => n = name && params.length = arity) || forms.contains (name, arity) ||
    (Builtin.find? name arity).isSome

end Library

end TypeSketch.Filter
