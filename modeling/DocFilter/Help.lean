/-!
# Built-in documentation

The pages that the command line shows: an overview, and one page for each topic.
-/

namespace DocFilter

/-- What a page can be about. -/
inductive Topic where
  | syntaxRules | operators | semantics
  deriving DecidableEq, Repr

namespace Topic

/-- The topic of a name, in letters of either case. -/
def ofName? (name : String) : Option Topic :=
  match String.ofList (name.toList.map Char.toLower) with
  | "syntax" => some syntaxRules
  | "operators" | "ops" => some operators
  | "semantics" | "matching" => some semantics
  | _ => none

/-- What a topic is called. -/
def title : Topic → String
  | syntaxRules => "Syntax"
  | operators => "Operators"
  | semantics => "Semantics"

/-- Lines, each with its line end. -/
def page (lines : List String) : String := String.join (lines.map (· ++ "\n"))

/-- The list of topics and a quick reference. -/
def overview : String :=
  page [
    "CLAIMPATH DOCUMENTATION",
    "",
    "claimpath matches JSON documents (such as token claims) against filter queries",
    "written in a subset of the JSONPath filter syntax. A query answers one question:",
    "does this document match?",
    "",
    "DOCUMENTATION CATEGORIES",
    "",
    "  syntax       Attribute paths, literals, lists, regular expressions, grouping",
    "  operators    Comparison, membership, regex and logical operators",
    "  semantics    Missing attributes, type mismatches and error handling",
    "",
    "QUICK REFERENCE",
    "",
    "  @.exp                      Attribute path from the document root",
    "  @.exp > 1000               Comparison",
    "  'kafka' in @.aud           Membership",
    "  @.iss =~ /^https:.+/i      Regex match",
    "  a and b, a && b            Both",
    "  a or b, a || b             Either",
    "  !(...)                     Negation",
    "",
    "Run 'claimpath doc <category>' for detailed documentation."]

/-- Paths, literals and grouping. -/
def syntaxLines : List String :=
  [ "ATTRIBUTE PATHS",
    "  @.name.nested",
    "    Resolved from the document root, one key at a time.",
    "",
    "    Example:",
    "      Input:  \x7b\"roles\": \x7b\"client-roles\": \x7b\"kafka\": [\"kafka-user\"]\x7d\x7d\x7d",
    "      Query:  @.roles.client-roles.kafka != null",
    "      Output: true",
    "",
    "    Constraints:",
    "      - Segments end at '.', whitespace or ')'",
    "      - Deep scan (@..name) is not supported",
    "      - Array indexing and bracket notation (@.aud[0]) are not supported",
    "",
    "LITERALS",
    "  'text' or \"text\"     Strings, no escape sequences",
    "  42, -1.5             Numbers, compared as exact decimals",
    "  null                 Null",
    "  ['a', 42, null]      Lists of strings, numbers and null",
    "",
    "REGULAR EXPRESSIONS",
    "  /pattern/flags",
    "    Only to the right of =~. Write \\/ for a literal slash.",
    "    Flags: i (ignore case), m (multi-line), s (dot matches newline),",
    "           x (ignore whitespace). Inline flags such as (?i) also work.",
    "",
    "GROUPING AND NEGATION",
    "  (a or b) and c",
    "  !(a and b)",
    "",
    "  Operators and keywords must be separated by whitespace:",
    "    @.a == 1      compares attribute 'a' with 1",
    "    @.a==1        checks an attribute literally named 'a==1'"]

/-- Operators and connectives. -/
def operatorsLines : List String :=
  [ "COMPARISON",
    "  ==  !=  <  >  <=  >=",
    "    The left side must be an attribute path.",
    "    <, >, <= and >= do not accept null on the right.",
    "    >= is defined as \"not <\", and <= as \"not >\".",
    "",
    "MEMBERSHIP",
    "  in, nin",
    "    @.custom in ['a', 42]       attribute value in a list",
    "    'kafka' in @.aud            literal in an array attribute",
    "    @.sub in @.allowed          attribute in another array attribute",
    "",
    "  anyof, noneof",
    "    @.roles anyof ['admin', 'ops']     some element is in the list",
    "    @.roles noneof ['banned']          no element is in the list",
    "",
    "REGEX",
    "  =~",
    "    @.custom =~ /^custom-.+$/",
    "    Matches the textual form of strings, numbers and booleans.",
    "",
    "LOGICAL",
    "  and, &&     Stops at the first false clause",
    "  or, ||      Evaluates every clause",
    "  !           Negates the following clause or group",
    "",
    "  Clauses are combined strictly left to right:",
    "    a or b and c   is   (a or b) and c",
    "",
    "  Reaching 'and' with a false result ends the match as false, even",
    "  when an 'or' clause follows later:",
    "    a and b or c   is false whenever a is false"]

/-- Missing values, numbers and faults. -/
def semanticsLines : List String :=
  [ "MISSING ATTRIBUTES",
    "  @.missing == null       true",
    "  @.missing != null       false",
    "  @.missing == 'x'        false",
    "  @.missing in [null]     true",
    "",
    "NUMBERS",
    "  Compared as exact decimals: @.level == 9 matches 9 and 9.0,",
    "  but not 9.0000001.",
    "",
    "TYPE MISMATCHES",
    "  A comparison that cannot be made against a literal, such as",
    "  @.name > 5 for a string name, counts as false and matching continues.",
    "",
    "  Ordering two attributes of incompatible types, such as",
    "  @.name > @.level, fails the whole match.",
    "",
    "COMPATIBILITY MODE",
    "  'claimpath check --compat' ignores '!' and refuses =~, anyof and noneof",
    "  at match time, for queries written against that behavior."]

/-- What the page of a topic is about. -/
def subject : Topic → String
  | syntaxRules => "Paths, Literals and Grouping"
  | operators => "Comparison, Membership and Logic"
  | semantics => "Missing Values and Errors"

/-- What the page of a topic says. -/
def lines : Topic → List String
  | syntaxRules => syntaxLines
  | operators => operatorsLines
  | semantics => semanticsLines

/-- The page of a topic, under its title in capitals. -/
def text (topic : Topic) : String :=
  page ((topic.title.map Char.toUpper ++ " - " ++ topic.subject) :: "" :: topic.lines)

end Topic

end DocFilter
