import TapeDebugger.Text.Words
import TapeDebugger.Tool.Definition
import TapeDebugger.Tool.Identifier

/-!
# The tool index

The tools that can be found, by identifier. A query finds the tools that share a
word with it, where the commonest English words do not count; a blank query finds
all tools.
-/

namespace TapeDebugger

/-- English words too common to search for. -/
def stopWords : List String :=
  ["i", "me", "my", "myself", "we", "our", "ours", "ourselves", "you", "your", "yours",
    "yourself", "yourselves", "he", "him", "his", "himself", "she", "her", "hers", "herself",
    "it", "its", "itself", "they", "them", "their", "theirs", "themselves", "what", "which",
    "who", "whom", "this", "that", "these", "those", "am", "is", "are", "was", "were", "be",
    "been", "being", "have", "has", "had", "having", "do", "does", "did", "doing", "would",
    "should", "could", "ought", "i'm", "you're", "he's", "she's", "it's", "we're", "they're",
    "i've", "you've", "we've", "they've", "i'd", "you'd", "he'd", "she'd", "we'd", "they'd",
    "i'll", "you'll", "he'll", "she'll", "we'll", "they'll", "isn't", "aren't", "wasn't",
    "weren't", "hasn't", "haven't", "hadn't", "doesn't", "don't", "didn't", "won't", "wouldn't",
    "shan't", "shouldn't", "can't", "cannot", "couldn't", "mustn't", "let's", "that's", "who's",
    "what's", "here's", "there's", "when's", "where's", "why's", "how's", "a", "an", "the",
    "and", "but", "if", "or", "because", "as", "until", "while", "of", "at", "by", "for",
    "with", "about", "against", "between", "into", "through", "during", "before", "after",
    "above", "below", "to", "from", "up", "down", "in", "out", "on", "off", "over", "under",
    "again", "further", "then", "once", "here", "there", "when", "where", "why", "how", "all",
    "any", "both", "each", "few", "more", "most", "other", "some", "such", "no", "nor", "not",
    "only", "own", "same", "so", "than", "too", "very"]

/-- The words of a text that count in a search. -/
def searchWords (text : String) : List String :=
  (Text.words text).filter fun word => !stopWords.contains word

/-- The words a tool is found by. -/
def Tool.searchWords (tool : Tool) : List String :=
  ([tool.name, tool.toolNamespace, tool.description] ++ tool.tags).flatMap TapeDebugger.searchWords

/-- Why a tool cannot be entered: another one has its identifier. -/
structure IndexFault where
  identifier : String
deriving Repr, DecidableEq

/-- How a refused tool is reported. -/
def IndexFault.message (fault : IndexFault) : String :=
  "invalid tool: tool " ++ Text.quoted fault.identifier
    ++ " MCP fields differ from existing registration"

/-- The tools that can be found, by identifier. -/
structure ToolIndex where
  tools : NameMap Tool

namespace ToolIndex

/-- An index without tools. -/
def empty : ToolIndex where
  tools := .empty

/-- The identifier of a tool. -/
def identifier (tool : Tool) : String :=
  ToolId.format tool.toolNamespace tool.name

/-- Enter a tool. An identifier that is taken is refused unless the tool there
shows clients the same. -/
def register (index : ToolIndex) (tool : Tool) : Except IndexFault ToolIndex :=
  let name := identifier tool
  match index.tools.get? name with
  | some present =>
    if (Json.object present.protocolMembers).compact = (Json.object tool.protocolMembers).compact
    then .ok { tools := index.tools.insert name tool }
    else .error { identifier := name }
  | none => .ok { tools := index.tools.insert name tool }

/-- A tool by its full identifier. -/
def get? (index : ToolIndex) (name : String) : Option Tool :=
  index.tools.get? name

/-- The namespaces in use, in order. -/
def namespaces (index : ToolIndex) : List String :=
  (NameMap.ofList (index.tools.values.map fun tool => (tool.toolNamespace, ()))).names

/-- The first `limit` tools that a query finds, in order of their identifiers. -/
def search (index : ToolIndex) (query : String) (limit : Int64) : List (String × Tool) :=
  let found :=
    if (Text.trimBlanks query.toList).isEmpty then index.tools.entries
    else
      let wanted := searchWords query
      index.tools.entries.filter fun (_, tool) => tool.searchWords.any wanted.contains
  found.take limit.toNatClampNeg

end ToolIndex

/-- A found tool in short. -/
def Tool.summaryJson (tool : Tool) (identifier : String) : Json :=
  .object (textMember "id" identifier ++ textMember "name" tool.name
    ++ textMember "namespace" tool.toolNamespace
    ++ textMember "shortDescription" tool.description
    ++ (if tool.tags.isEmpty then [] else [("tags", .array (tool.tags.map .string))]))

end TapeDebugger
