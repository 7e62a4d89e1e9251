import ContractFixtures.Text.Runs

/-!
# Characters that differ in case only

The characters that fold to the same one form an orbit of at most four. The table gives, for every
code point, the distance to the next one of its orbit, the last being followed by the first, and
the number of code points with that distance.
-/

namespace ContractFixtures.Text.CaseOrbit

/-- The distance to the next code point of the orbit. -/
def distances : Runs Int := .ofPairs
  ["0:65 32:26 0:6 -32:10 8383:1 -32:7 268:1 -32:7 0:58 743:1 0:10 32:23 0:1 32:7 7615:1",
   "-32:5 8262:1 -32:17 0:1 -32:7 121:1 1:1 -1:1 1:1 -1:1 1:1 -1:1 1:1 -1:1 1:1 -1:1 1:1",
   "-1:1 1:1 -1:1 1:1 -1:1 1:1 -1:1 1:1 -1:1 1:1 -1:1 1:1 -1:1 1:1 -1:1 1:1 -1:1 1:1 -1:1",
   "1:1 -1:1 1:1 -1:1 1:1 -1:1 1:1 -1:1 1:1 -1:1 1:1 -1:1 1:1 -1:1 1:1 -1:1 1:1 -1:1 0:2 1:1",
   "-1:1 1:1 -1:1 1:1 -1:1 0:1 1:1 -1:1 1:1 -1:1 1:1 -1:1 1:1 -1:1 1:1 -1:1 1:1 -1:1 1:1",
   "-1:1 1:1 -1:1 0:1 1:1 -1:1 1:1 -1:1 1:1 -1:1 1:1 -1:1 1:1 -1:1 1:1 -1:1 1:1 -1:1 1:1",
   "-1:1 1:1 -1:1 1:1 -1:1 1:1 -1:1 1:1 -1:1 1:1 -1:1 1:1 -1:1 1:1 -1:1 1:1 -1:1 1:1 -1:1",
   "1:1 -1:1 1:1 -1:1 1:1 -1:1 1:1 -1:1 1:1 -1:1 1:1 -1:1 -121:1 1:1 -1:1 1:1 -1:1 1:1 -1:1",
   "-300:1 195:1 210:1 1:1 -1:1 1:1 -1:1 206:1 1:1 -1:1 205:2 1:1 -1:1 0:1 79:1 202:1 203:1",
   "1:1 -1:1 205:1 207:1 97:1 211:1 209:1 1:1 -1:1 163:1 42561:1 211:1 213:1 130:1 214:1 1:1",
   "-1:1 1:1 -1:1 1:1 -1:1 218:1 1:1 -1:1 218:1 0:2 1:1 -1:1 218:1 1:1 -1:1 217:2 1:1 -1:1",
   "1:1 -1:1 219:1 1:1 -1:1 0:2 1:1 -1:1 0:1 56:1 0:4 1:2 -2:1 1:2 -2:1 1:2 -2:1 1:1 -1:1",
   "1:1 -1:1 1:1 -1:1 1:1 -1:1 1:1 -1:1 1:1 -1:1 1:1 -1:1 1:1 -1:1 -79:1 1:1 -1:1 1:1 -1:1",
   "1:1 -1:1 1:1 -1:1 1:1 -1:1 1:1 -1:1 1:1 -1:1 1:1 -1:1 1:1 -1:1 0:1 1:2 -2:1 1:1 -1:1",
   "-97:1 -56:1 1:1 -1:1 1:1 -1:1 1:1 -1:1 1:1 -1:1 1:1 -1:1 1:1 -1:1 1:1 -1:1 1:1 -1:1 1:1",
   "-1:1 1:1 -1:1 1:1 -1:1 1:1 -1:1 1:1 -1:1 1:1 -1:1 1:1 -1:1 1:1 -1:1 1:1 -1:1 1:1 -1:1",
   "1:1 -1:1 1:1 -1:1 -130:1 0:1 1:1 -1:1 1:1 -1:1 1:1 -1:1 1:1 -1:1 1:1 -1:1 1:1 -1:1 1:1",
   "-1:1 1:1 -1:1 1:1 -1:1 0:6 10795:1 1:1 -1:1 -163:1 10792:1 10815:2 1:1 -1:1 -195:1 69:1",
   "71:1 1:1 -1:1 1:1 -1:1 1:1 -1:1 1:1 -1:1 1:1 -1:1 10783:1 10780:1 10782:1 -210:1 -206:1",
   "0:1 -205:2 0:1 -202:1 0:1 -203:1 42319:1 0:3 -205:1 42315:1 0:1 -207:1 42343:1 42280:1",
   "42308:1 0:1 -209:1 -211:1 42308:1 10743:1 42305:1 0:2 -211:1 0:1 10749:1 -213:1 0:2",
   "-214:1 0:7 10727:1 0:2 -218:1 0:1 42307:1 -218:1 0:3 42282:1 -218:1 -69:1 -217:2 -71:1",
   "0:5 -219:1 0:10 42261:1 42258:1 0:166 84:1 0:42 1:1 -1:1 1:1 -1:1 0:2 1:1 -1:1 0:3 130:3",
   "0:1 116:1 0:6 38:1 0:1 37:3 0:1 64:1 0:1 63:2 7235:1 32:17 0:1 31:1 32:8 -38:1 -37:3",
   "7219:1 -32:1 30:1 -32:2 64:1 -32:2 25:1 7173:1 54:1 -32:1 -775:1 -32:3 22:1 48:1 1:1",
   "-32:3 15:1 -32:2 7517:1 -32:2 -64:1 -63:2 8:1 -62:1 35:1 0:3 -47:1 -54:1 -8:1 1:1 -1:1",
   "1:1 -1:1 1:1 -1:1 1:1 -1:1 1:1 -1:1 1:1 -1:1 1:1 -1:1 1:1 -1:1 1:1 -1:1 1:1 -1:1 1:1",
   "-1:1 1:1 -1:1 -86:1 -80:1 7:1 -116:1 -92:1 -96:1 0:1 1:1 -1:1 -7:1 1:1 -1:1 0:1 -130:3",
   "80:16 32:32 -32:2 6222:1 -32:1 6221:1 -32:9 6212:1 -32:2 6210:2 -32:7 6204:1 -32:5",
   "-80:16 1:1 -1:1 1:1 6180:1 1:1 -1:1 1:1 -1:1 1:1 -1:1 1:1 -1:1 1:1 -1:1 1:1 -1:1 1:1",
   "-1:1 1:1 -1:1 1:1 -1:1 1:1 -1:1 1:1 -1:1 1:1 -1:1 1:1 -1:1 1:1 -1:1 1:1 -1:1 0:8 1:1",
   "-1:1 1:1 -1:1 1:1 -1:1 1:1 -1:1 1:1 -1:1 1:1 -1:1 1:1 -1:1 1:1 -1:1 1:1 -1:1 1:1 -1:1",
   "1:1 -1:1 1:1 -1:1 1:1 -1:1 1:1 -1:1 1:1 -1:1 1:1 -1:1 1:1 -1:1 1:1 -1:1 1:1 -1:1 1:1",
   "-1:1 1:1 -1:1 1:1 -1:1 1:1 -1:1 1:1 -1:1 1:1 -1:1 1:1 -1:1 1:1 -1:1 15:1 1:1 -1:1 1:1",
   "-1:1 1:1 -1:1 1:1 -1:1 1:1 -1:1 1:1 -1:1 1:1 -1:1 -15:1 1:1 -1:1 1:1 -1:1 1:1 -1:1 1:1",
   "-1:1 1:1 -1:1 1:1 -1:1 1:1 -1:1 1:1 -1:1 1:1 -1:1 1:1 -1:1 1:1 -1:1 1:1 -1:1 1:1 -1:1",
   "1:1 -1:1 1:1 -1:1 1:1 -1:1 1:1 -1:1 1:1 -1:1 1:1 -1:1 1:1 -1:1 1:1 -1:1 1:1 -1:1 1:1",
   "-1:1 1:1 -1:1 1:1 -1:1 1:1 -1:1 1:1 -1:1 1:1 -1:1 1:1 -1:1 1:1 -1:1 1:1 -1:1 1:1 -1:1",
   "1:1 -1:1 1:1 -1:1 1:1 -1:1 1:1 -1:1 1:1 -1:1 1:1 -1:1 1:1 -1:1 1:1 -1:1 1:1 -1:1 1:1",
   "-1:1 1:1 -1:1 1:1 -1:1 1:1 -1:1 1:1 -1:1 1:1 -1:1 1:1 -1:1 0:1 48:38 0:10 -48:38 0:2841",
   "7264:38 0:1 7264:1 0:5 7264:1 0:2 3008:43 0:2 3008:3 0:672 38864:80 8:6 0:2 -8:6 0:2178",
   "-6254:1 -6253:1 -6244:1 -6242:1 1:1 -6243:1 -6236:1 -6181:1 35266:1 1:1 -1:1 0:5",
   "-3008:43 0:2 -3008:3 0:185 35332:1 0:3 3814:1 0:16 35384:1 0:113 1:1 -1:1 1:1 -1:1 1:1",
   "-1:1 1:1 -1:1 1:1 -1:1 1:1 -1:1 1:1 -1:1 1:1 -1:1 1:1 -1:1 1:1 -1:1 1:1 -1:1 1:1 -1:1",
   "1:1 -1:1 1:1 -1:1 1:1 -1:1 1:1 -1:1 1:1 -1:1 1:1 -1:1 1:1 -1:1 1:1 -1:1 1:1 -1:1 1:1",
   "-1:1 1:1 -1:1 1:1 -1:1 1:1 -1:1 1:1 -1:1 1:1 -1:1 1:1 -1:1 1:1 -1:1 1:1 -1:1 1:1 -1:1",
   "1:1 -1:1 1:1 -1:1 1:1 -1:1 1:1 -1:1 1:1 -1:1 1:1 -1:1 1:1 -1:1 1:1 -1:1 1:1 -1:1 1:1",
   "-1:1 1:1 -1:1 1:1 -1:1 1:1 -1:1 1:1 -1:1 1:1 -1:1 1:1 -1:1 1:1 -1:1 1:1 58:1 1:1 -1:1",
   "1:1 -1:1 1:1 -1:1 1:1 -1:1 1:1 -1:1 1:1 -1:1 1:1 -1:1 1:1 -1:1 1:1 -1:1 1:1 -1:1 1:1",
   "-1:1 1:1 -1:1 1:1 -1:1 1:1 -1:1 1:1 -1:1 1:1 -1:1 1:1 -1:1 1:1 -1:1 1:1 -1:1 1:1 -1:1",
   "1:1 -1:1 1:1 -1:1 1:1 -1:1 1:1 -1:1 1:1 -1:1 1:1 -1:1 0:5 -59:1 0:2 -7615:1 0:1 1:1 -1:1",
   "1:1 -1:1 1:1 -1:1 1:1 -1:1 1:1 -1:1 1:1 -1:1 1:1 -1:1 1:1 -1:1 1:1 -1:1 1:1 -1:1 1:1",
   "-1:1 1:1 -1:1 1:1 -1:1 1:1 -1:1 1:1 -1:1 1:1 -1:1 1:1 -1:1 1:1 -1:1 1:1 -1:1 1:1 -1:1",
   "1:1 -1:1 1:1 -1:1 1:1 -1:1 1:1 -1:1 1:1 -1:1 1:1 -1:1 1:1 -1:1 1:1 -1:1 1:1 -1:1 1:1",
   "-1:1 1:1 -1:1 1:1 -1:1 1:1 -1:1 1:1 -1:1 1:1 -1:1 1:1 -1:1 1:1 -1:1 1:1 -1:1 1:1 -1:1",
   "1:1 -1:1 1:1 -1:1 1:1 -1:1 1:1 -1:1 1:1 -1:1 1:1 -1:1 1:1 -1:1 1:1 -1:1 1:1 -1:1 8:8",
   "-8:8 8:6 0:2 -8:6 0:2 8:8 -8:8 8:8 -8:8 8:6 0:2 -8:6 0:3 8:1 0:1 8:1 0:1 8:1 0:1 8:1 0:1",
   "-8:1 0:1 -8:1 0:1 -8:1 0:1 -8:1 8:8 -8:8 74:2 86:4 100:2 128:2 112:2 126:2 0:2 8:8 -8:8",
   "8:8 -8:8 8:8 -8:8 8:2 0:1 9:1 0:4 -8:2 -74:2 -9:1 0:1 -7289:1 0:4 9:1 0:4 -86:4 -9:1 0:3",
   "8:2 0:1 -7235:1 0:4 -8:2 -100:2 0:4 8:2 0:1 -7219:1 0:1 7:1 0:2 -8:2 -112:2 -7:1 0:6 9:1",
   "0:4 -128:2 -126:2 -9:1 0:297 -7549:1 0:3 -8415:1 -8294:1 0:6 28:1 0:27 -28:1 0:17 16:16",
   "-16:16 0:3 1:1 -1:1 0:817 26:26 -26:26 0:1814 48:48 -48:48 1:1 -1:1 -10743:1 -3814:1",
   "-10727:1 -10795:1 -10792:1 1:1 -1:1 1:1 -1:1 1:1 -1:1 -10780:1 -10749:1 -10783:1",
   "-10782:1 0:1 1:1 -1:1 0:1 1:1 -1:1 0:7 -10815:2 1:1 -1:1 1:1 -1:1 1:1 -1:1 1:1 -1:1 1:1",
   "-1:1 1:1 -1:1 1:1 -1:1 1:1 -1:1 1:1 -1:1 1:1 -1:1 1:1 -1:1 1:1 -1:1 1:1 -1:1 1:1 -1:1",
   "1:1 -1:1 1:1 -1:1 1:1 -1:1 1:1 -1:1 1:1 -1:1 1:1 -1:1 1:1 -1:1 1:1 -1:1 1:1 -1:1 1:1",
   "-1:1 1:1 -1:1 1:1 -1:1 1:1 -1:1 1:1 -1:1 1:1 -1:1 1:1 -1:1 1:1 -1:1 1:1 -1:1 1:1 -1:1",
   "1:1 -1:1 1:1 -1:1 1:1 -1:1 1:1 -1:1 1:1 -1:1 1:1 -1:1 1:1 -1:1 1:1 -1:1 1:1 -1:1 1:1",
   "-1:1 1:1 -1:1 1:1 -1:1 1:1 -1:1 1:1 -1:1 1:1 -1:1 1:1 -1:1 1:1 -1:1 0:7 1:1 -1:1 1:1",
   "-1:1 0:3 1:1 -1:1 0:12 -7264:38 0:1 -7264:1 0:5 -7264:1 0:30994 1:1 -1:1 1:1 -1:1 1:1",
   "-1:1 1:1 -1:1 1:1 -1:1 1:1 -35267:1 1:1 -1:1 1:1 -1:1 1:1 -1:1 1:1 -1:1 1:1 -1:1 1:1",
   "-1:1 1:1 -1:1 1:1 -1:1 1:1 -1:1 1:1 -1:1 1:1 -1:1 1:1 -1:1 1:1 -1:1 1:1 -1:1 1:1 -1:1",
   "1:1 -1:1 1:1 -1:1 0:18 1:1 -1:1 1:1 -1:1 1:1 -1:1 1:1 -1:1 1:1 -1:1 1:1 -1:1 1:1 -1:1",
   "1:1 -1:1 1:1 -1:1 1:1 -1:1 1:1 -1:1 1:1 -1:1 1:1 -1:1 1:1 -1:1 0:134 1:1 -1:1 1:1 -1:1",
   "1:1 -1:1 1:1 -1:1 1:1 -1:1 1:1 -1:1 1:1 -1:1 0:2 1:1 -1:1 1:1 -1:1 1:1 -1:1 1:1 -1:1 1:1",
   "-1:1 1:1 -1:1 1:1 -1:1 1:1 -1:1 1:1 -1:1 1:1 -1:1 1:1 -1:1 1:1 -1:1 1:1 -1:1 1:1 -1:1",
   "1:1 -1:1 1:1 -1:1 1:1 -1:1 1:1 -1:1 1:1 -1:1 1:1 -1:1 1:1 -1:1 1:1 -1:1 1:1 -1:1 1:1",
   "-1:1 1:1 -1:1 1:1 -1:1 1:1 -1:1 1:1 -1:1 1:1 -1:1 1:1 -1:1 1:1 -1:1 0:9 1:1 -1:1 1:1",
   "-1:1 -35332:1 1:1 -1:1 1:1 -1:1 1:1 -1:1 1:1 -1:1 1:1 -1:1 0:3 1:1 -1:1 -42280:1 0:2 1:1",
   "-1:1 1:1 -1:1 48:1 0:1 1:1 -1:1 1:1 -1:1 1:1 -1:1 1:1 -1:1 1:1 -1:1 1:1 -1:1 1:1 -1:1",
   "1:1 -1:1 1:1 -1:1 1:1 -1:1 -42308:1 -42319:1 -42315:1 -42305:1 -42308:1 0:1 -42258:1",
   "-42282:1 -42261:1 928:1 1:1 -1:1 1:1 -1:1 1:1 -1:1 1:1 -1:1 1:1 -1:1 1:1 -1:1 1:1 -1:1",
   "1:1 -1:1 -48:1 -42307:1 -35384:1 1:1 -1:1 1:1 -1:1 -42343:1 1:1 -1:1 0:2 1:1 -1:1 0:4",
   "1:1 -1:1 1:1 -1:1 1:1 -1:1 -42561:1 0:24 1:1 -1:1 0:860 -928:1 0:28 -38864:80 0:20293",
   "1:1 -1:1 0:1050 32:26 0:6 -32:26 0:1189 40:40 -40:40 0:96 40:36 0:4 -40:36 0:116 39:11",
   "0:1 39:15 0:1 39:7 0:1 39:2 0:1 -39:11 0:1 -39:15 0:1 -39:7 0:1 -39:2 0:1731 64:51 0:13",
   "-64:51 0:93 32:22 0:10 -32:22 0:2842 32:32 -32:32 0:21856 32:32 -32:32 0:31360 34:34",
   "-34:34 0:988860"]

/-- The next character of the orbit; a character that has no other case is its own orbit. -/
def next (c : Char) : Char :=
  Char.ofNat (c.toNat + (distances.valueAt? c.toNat).getD 0).toNat

/-- The characters of the orbit, some perhaps more than once. -/
def members (c : Char) : List Char :=
  [c, next c, next (next c), next (next (next c))]

end ContractFixtures.Text.CaseOrbit
