import ContractFixtures.FileTree.Edit
import ContractFixtures.Text.Utf8

/-!
# Sample files

The files that lie below the home of the settings: the fixtures and the skip list that the settings
point at by default. With them the default settings load a suite of two files.
-/

namespace ContractFixtures

namespace Samples

/-- A text of lines, each of which ends. -/
def ofLines (lines : List String) : String :=
  String.join (lines.map (· ++ "\n"))

/-- The fixtures of additions and subtractions. -/
def additionText : String := ofLines
  ["[", "  [", "    \x7b", "      \"env\": \x7b",
   "        \"witness\": [\"AFmseVrdL9f9oyCzZefL9tG6UbvhPbdYzM\"]", "      \x7d,",
   "      \"needcontext\": false,", "      \"method\": \"add\",",
   "      \"param\": \"int:100, int:20\",", "      \"expected\": \"int:120\",",
   "      \"notify\": \"\"", "    \x7d,", "    \x7b", "      \"env\": \x7b",
   "        \"witness\": []", "      \x7d,", "      \"method\": \"add_overflow\",",
   "      \"param\": \"int:9223372036854775807, int:1\",", "      \"expected\": \"\"", "    \x7d",
   "  ],", "  [", "    \x7b", "      \"env\": \x7b",
   "        \"witness\": [\"AFsCjUGzicZmXQtWpwVt6fQTZyaVe7bfEk\", " ++
     "\"Af7Udc9v3L82dQM5b4zee1Xt77Be1DFb61\"]",
   "      \x7d,", "      \"method\": \"sub\",", "      \"param\": \"int128:10, int128:3\",",
   "      \"expected\": \"int128:7\"", "    \x7d", "  ]", "]"]

/-- Fixtures of products, malformed in their first case. -/
def malformedProductText : String := ofLines
  ["[[\x7b\"env\": \x7b\"witness\": 1\x7d, \"method\": \"mul\", " ++
    "\"param\": \"\", \"expected\": \"\"\x7d]]"]

/-- A document that holds no fixtures. -/
def foreignText : String := ofLines
  ["\x7b\"not\": \"a fixture\"\x7d"]

/-- The fixtures of a store. -/
def storageText : String := ofLines
  ["[", "  [", "    \x7b", "      \"env\": \x7b",
   "        \"witness\": [\"AFmseVrdL9f9oyCzZefL9tG6UbvhPbdYzM\"]", "      \x7d,",
   "      \"needcontext\": true,", "      \"method\": \"put\",",
   "      \"param\": \"string:key, bytearray:0a0b\",", "      \"expected\": \"bool:true\",",
   "      \"notify\": \"put key\"", "    \x7d,", "    \x7b", "      \"env\": \x7b",
   "        \"witness\": []", "      \x7d,", "      \"method\": \"get\",",
   "      \"param\": \"string:key\",", "      \"expected\": \"bytearray:0a0b\"", "    \x7d,",
   "    \x7b", "      \"env\": \x7b", "        \"witness\": []", "      \x7d,",
   "      \"method\": \"owner\",", "      \"param\": \"address:admin\",",
   "      \"expected\": \"address:kv.wasm\"", "    \x7d", "  ]", "]"]

/-- The skip list. -/
def skipText : String := ofLines
  ["directories:", "  - legacy", "regex:", "  arith:", "    - \"^overflow_.*\"", "method:",
   "  add:", "    - add_overflow"]

/-- Fixtures with a witness whose checksum is wrong. -/
def badWitnessText : String := ofLines
  ["[", "  [", "    \x7b", "      \"env\": \x7b",
   "        \"witness\": [\"AFmseVrdL9f9oyCzZefL9tG6UbvhPbdYzX\"]", "      \x7d,",
   "      \"method\": \"add\",", "      \"param\": \"\",", "      \"expected\": \"\"", "    \x7d",
   "  ]", "]"]

/-- The paths of the files below the home, and their texts. -/
def files : List (String × String) :=
  [("test_data/fixtures/arith/add.json", additionText),
   ("test_data/fixtures/arith/overflow_mul.json", malformedProductText),
   ("test_data/fixtures/legacy/old.json", foreignText),
   ("test_data/fixtures/storage/kv.json", storageText),
   ("test_data/wasm-tests-skip.yml", skipText),
   ("test_data/invalid/bad_witness.json", badWitnessText)]

/-- A file system that holds the files below a path as well. -/
def addTo (fs : FileSystem) (home : Path) : FileSystem :=
  files.foldl (fun fs (path, text) =>
    fs.putFile (home.join path) (Text.bytesOf text.toList)) fs

end Samples

end ContractFixtures
