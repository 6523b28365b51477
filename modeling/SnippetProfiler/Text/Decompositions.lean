import SnippetProfiler.Text.Classes

/-!
# Tables of decompositions

The full compatibility decompositions of Unicode 14 for the characters that may stand
in identifiers, the combining classes that are not zero, and the pairs of characters
that compose.  An entry has the gap to the entry before it, a colon, and numbers with
commas between them, all in hexadecimal; the gaps add up to the character that is
decomposed, to the first character of a run of one class, and to the character that a
pair composes.  No part of a decomposition comes before the digit zero, from which the
parts are counted, and no pair composes a character before U+00C0, from which those
are counted.  Hangul syllables follow a rule and are not listed.
-/

namespace SnippetProfiler.Text

/-- Decompositions (part 1). -/
def decompositionEntries1 : String :=
  "aa:31 b:38c 5:3f 6:11,2d0 1:11,2d1 1:11,2d2 1:11,2d3 1:11,2d8 1:11,2da 2:13,2f7 1:15,2d0 " ++
  "1:15,2d1 1:15,2d2 1:15,2d8 1:19,2d0 1:19,2d1 1:19,2d2 1:19,2d8 2:1e,2d3 1:1f,2d0 1:1f,2d1 " ++
  "1:1f,2d2 1:1f,2d3 1:1f,2d8 3:25,2d0 1:25,2d1 1:25,2d2 1:25,2d8 1:29,2d1 3:31,2d0 1:31,2d1 " ++
  "1:31,2d2 1:31,2d3 1:31,2d8 1:31,2da 2:33,2f7 1:35,2d0 1:35,2d1 1:35,2d2 1:35,2d8 1:39,2d0 " ++
  "1:39,2d1 1:39,2d2 1:39,2d8 2:3e,2d3 1:3f,2d0 1:3f,2d1 1:3f,2d2 1:3f,2d3 1:3f,2d8 3:45,2d0 " ++
  "1:45,2d1 1:45,2d2 1:45,2d8 1:49,2d1 2:49,2d8 1:11,2d4 1:31,2d4 1:11,2d6 1:31,2d6 1:11,2f8 " ++
  "1:31,2f8 1:13,2d1 1:33,2d1 1:13,2d2 1:33,2d2 1:13,2d7 1:33,2d7 1:13,2dc 1:33,2dc 1:14,2dc " ++
  "1:34,2dc 3:15,2d4 1:35,2d4 1:15,2d6 1:35,2d6 1:15,2d7 1:35,2d7 1:15,2f8 1:35,2f8 1:15,2dc " ++
  "1:35,2dc 1:17,2d2 1:37,2d2 1:17,2d6 1:37,2d6 1:17,2d7 1:37,2d7 1:17,2f7 1:37,2f7 1:18,2d2 " ++
  "1:38,2d2 3:19,2d3 1:39,2d3 1:19,2d4 1:39,2d4 1:19,2d6 1:39,2d6 1:19,2f8 1:39,2f8 1:19,2d7 " ++
  "2:19,1a 1:39,3a 1:1a,2d2 1:3a,2d2 1:1b,2f7 1:3b,2f7 2:1c,2d1 1:3c,2d1 1:1c,2f7 1:3c,2f7 " ++
  "1:1c,2dc 1:3c,2dc 1:1c,87 1:3c,87 3:1e,2d1 1:3e,2d1 1:1e,2f7 1:3e,2f7 1:1e,2dc 1:3e,2dc " ++
  "1:28c,3e 3:1f,2d4 1:3f,2d4 1:1f,2d6 1:3f,2d6 1:1f,2db 1:3f,2db 3:22,2d1 1:42,2d1 1:22,2f7 " ++
  "1:42,2f7 1:22,2dc 1:42,2dc 1:23,2d1 1:43,2d1 1:23,2d2 1:43,2d2 1:23,2f7 1:43,2f7 1:23,2dc " ++
  "1:43,2dc 1:24,2f7 1:44,2f7 1:24,2dc 1:44,2dc 3:25,2d3 1:45,2d3 1:25,2d4 1:45,2d4 1:25,2d6 " ++
  "1:45,2d6 1:25,2da 1:45,2da 1:25,2db 1:45,2db 1:25,2f8 1:45,2f8 1:27,2d2 1:47,2d2 1:29,2d2 " ++
  "1:49,2d2 1:29,2d8 1:2a,2d1 1:4a,2d1 1:2a,2d7 1:4a,2d7 1:2a,2dc 1:4a,2dc 1:43 21:1f,2eb " ++
  "1:3f,2eb e:25,2eb 1:45,2eb 14:14,2a,2dc 1:14,4a,2dc 1:34,4a,2dc 1:1c,1a 1:1c,3a 1:3c,3a " ++
  "1:1e,1a 1:1e,3a 1:3e,3a 1:11,2dc 1:31,2dc 1:19,2dc 1:39,2dc 1:1f,2dc 1:3f,2dc 1:25,2dc " ++
  "1:45,2dc 1:25,2d8,2d4 1:45,2d8,2d4 1:25,2d8,2d1 1:45,2d8,2d1 1:25,2d8,2dc 1:45,2d8,2dc " ++
  "1:25,2d8,2d0 1:45,2d8,2d0 2:11,2d8,2d4 1:31,2d8,2d4 1:11,2d7,2d4 1:31,2d7,2d4 1:96,2d4 " ++
  "1:b6,2d4 3:17,2dc 1:37,2dc 1:1b,2dc 1:3b,2dc 1:1f,2f8 1:3f,2f8 1:1f,2f8,2d4 1:3f,2f8,2d4 " ++
  "1:187,2dc 1:262,2dc 1:3a,2dc 1:14,2a 1:14,4a 1:34,4a 1:17,2d1 1:37,2d1 3:1e,2d0 1:3e,2d0 " ++
  "1:11,2da,2d1 1:31,2da,2d1 1:96,2d1 1:b6,2d1 1:a8,2d1 1:c8,2d1 1:11,2df 1:31,2df 1:11,2e1 " ++
  "1:31,2e1 1:15,2df 1:35,2df 1:15,2e1 1:35,2e1 1:19,2df 1:39,2df 1:19,2e1 1:39,2e1 1:1f,2df " ++
  "1:3f,2df 1:1f,2e1 1:3f,2e1 1:22,2df 1:42,2df 1:22,2e1 1:42,2e1 1:25,2df 1:45,2df 1:25,2e1 " ++
  "1:45,2e1 1:23,2f6 1:43,2f6 1:24,2f6 1:44,2f6 3:18,2dc 1:38,2dc 7:11,2d7 1:31,2d7 1:15,2f7 " ++
  "1:35,2f7 1:1f,2d8,2d4 1:3f,2d8,2d4 1:1f,2d3,2d4 1:3f,2d3,2d4 1:1f,2d7 1:3f,2d7 " ++
  "1:1f,2d7,2d4 1:3f,2d7,2d4 1:29,2d4 1:49,2d4 7d:38 1:236 1:3a 1:42 1:249 1:24b 1:251 1:47 " ++
  "1:49 28:233 1:3c 1:43 1:48 1:265 5c:2d0 1:2d1 2:2e3 1:2d8,2d1 30:289 12:361,2d1 1:87 " ++
  "1:365,2d1 1:367,2d1 1:369,2d1 2:36f,2d1 2:375,2d1 1:379,2d1 1:389,2d8,2d1 1a:369,2d8 " ++
  "1:375,2d8 1:381,2d1 1:385,2d1 1:387,2d1 1:389,2d1 1:395,2d8,2d1 1a:389,2d8 1:395,2d8 " ++
  "1:38f,2d1 1:395,2d1 1:399,2d1 2:382 1:388 1:375 1:375,2d1 1:375,2d8 1:396 1:390 1a:38a " ++
  "1:391 1:392 2:368 1:385 4:373 7:3e5,2d0 1:3e5,2d8 2:3e3,2d1 4:3d6,2d8 5:3ea,2d1 1:3e8,2d0 " ++
  "1:3f3,2d6 b:3e8,2d6 20:408,2d6 17:405,2d0 1:405,2d8 2:403,2d1 4:426,2d8 5:40a,2d1 " ++
  "1:408,2d0 1:413,2d6 18:444,2df 1:445,2df 4a:3e6,2d6 1:406,2d6 e:3e0,2d6 1:400,2d6 " ++
  "1:3e0,2d8 1:400,2d8 3:3e5,2d6 1:405,2d6 3:4a8,2d8 1:4a9,2d8 1:3e6,2d8 1:406,2d8 1:3e7,2d8 " ++
  "1:407,2d8 3:3e8,2d4 1:408,2d4 1:3e8,2d8 1:408,2d8 1:3ee,2d8 1:40e,2d8 3:4b8,2d8 1:4b9,2d8 " ++
  "1:3fd,2d8 1:41d,2d8 1:3f3,2d4 1:413,2d4 1:3f3,2d8 1:413,2d8 1:3f3,2db 1:413,2db 1:3f7,2d8 " ++
  "1:417,2d8 3:3fb,2d8 1:41b,2d8 8e:535,552 9b:5f7,623 1:5f7,624 1:618,624 1:5f7,625 " ++
  "1:61a,624 4f:5f7,644 1:618,644 1:697,644 1:61a,644 48:6a5,624 2:691,624 11:6a2,624 " ++
  "256:8f8,90c 8:900,90c 3:903,90c 24:8e5,90c 1:8e6,90c 1:8e7,90c 1:8ec,90c 1:8f1,90c " ++
  "1:8f2,90c"

/-- Decompositions (part 2). -/
def decompositionEntries2 : String :=
  "1:8fb,90c 1:8ff,90c 6c:997,98e 1:997,9a7 10:971,98c 1:972,98c 2:97f,98c 54:a02,a0c " ++
  "3:a08,a0c 23:9e6,a0c 1:9e7,a0c 1:9ec,a0c 3:9fb,a0c ea:b17,b26 3:b17,b0e 1:b17,b27 " ++
  "10:af1,b0c 1:af2,b0c 37:b62,ba7 36:b96,b8e 1:b97,b8e 1:b96,ba7 7c:c16,c26 78:c8f,ca5 " ++
  "7:c96,ca5 1:c96,ca6 2:c96,c92 1:c96,c92,ca5 7f:d16,d0e 1:d17,d0e 1:d16,d27 8e:da9,d9a " ++
  "2:da9,d9f 1:da9,d9f,d9a 1:da9,daf 55:e1d,e02 80:e9d,e82 29:e7b,e69 1:e7b,e71 66:f12,f87 " ++
  "a:f1c,f87 5:f21,f87 5:f26,f87 5:f2b,f87 d:f10,f85 a:f41,f42 2:f41,f44 1:f82,f50 " ++
  "1:f82,f41,f50 1:f83,f50 1:f83,f41,f50 8:f41,f50 12:f62,f87 a:f6c,f87 5:f71,f87 5:f76,f87 " ++
  "5:f7b,f87 d:f60,f85 6d:ff5,ffe d6:10ac a0a:1ad5,1b05 2:1ad7,1b05 2:1ad9,1b05 2:1adb,1b05 " ++
  "2:1add,1b05 4:1ae1,1b05 29:1b0a,1b05 2:1b0c,1b05 3:1b0e,1b05 1:1b0f,1b05 2:1b12,1b05 " ++
  "1e9:11 1:96 1:12 2:14 1:15 1:15e 1:17 1:18 1:19 1:1a 1:1b 1:1c 1:1d 1:1e 2:1f 1:1f2 1:20 " ++
  "1:22 1:24 1:25 1:27 1:31 1:220 1:221 1:1cd2 1:32 1:34 1:35 1:229 1:22b 1:22c 1:37 2:3b " ++
  "1:3d 1:11b 1:3f 1:224 1:1ce6 1:1ce7 1:40 1:44 1:45 1:1ced 1:23f 1:46 1:1cf5 1:382 1:383 " ++
  "1:384 1:396 1:397 1:39 1:42 1:45 1:46 1:382 1:383 1:391 1:396 1:397 e:40d 23:222 1:33 " ++
  "1:225 1:c0 1:22c 1:36 1:22f 1:231 1:235 1:238 1:239 1:23a 1:1d4b 1:26d 1:23d 1:1d55 1:26f " ++
  "1:241 1:240 1:242 1:243 1:244 1:245 1:248 1:252 1:253 1:17b 1:259 1:25a 1:1cec 1:25b 1:25c " ++
  "1:4a 1:260 1:261 1:262 1:388 41:11,2f5 1:31,2f5 1:12,2d7 1:32,2d7 1:12,2f3 1:32,2f3 " ++
  "1:12,301 1:32,301 1:13,2f7,2d1 1:33,2f7,2d1 1:14,2d7 1:34,2d7 1:14,2f3 1:34,2f3 1:14,301 " ++
  "1:34,301 1:14,2f7 1:34,2f7 1:14,2fd 1:34,2fd 1:15,2d4,2d0 1:35,2d4,2d0 1:15,2d4,2d1 " ++
  "1:35,2d4,2d1 1:15,2fd 1:35,2fd 1:15,300 1:35,300 1:15,2f7,2d6 1:35,2f7,2d6 1:16,2d7 " ++
  "1:36,2d7 1:17,2d4 1:37,2d4 1:18,2d7 1:38,2d7 1:18,2f3 1:38,2f3 1:18,2d8 1:38,2d8 1:18,2f7 " ++
  "1:38,2f7 1:18,2fe 1:38,2fe 1:19,300 1:39,300 1:19,2d8,2d1 1:39,2d8,2d1 1:1b,2d1 1:3b,2d1 " ++
  "1:1b,2f3 1:3b,2f3 1:1b,301 1:3b,301 1:1c,2f3 1:3c,2f3 1:1c,2f3,2d4 1:3c,2f3,2d4 1:1c,301 " ++
  "1:3c,301 1:1c,2fd 1:3c,2fd 1:1d,2d1 1:3d,2d1 1:1d,2d7 1:3d,2d7 1:1d,2f3 1:3d,2f3 1:1e,2d7 " ++
  "1:3e,2d7 1:1e,2f3 1:3e,2f3 1:1e,301 1:3e,301 1:1e,2fd 1:3e,2fd 1:1f,2d3,2d1 1:3f,2d3,2d1 " ++
  "1:1f,2d3,2d8 1:3f,2d3,2d8 1:1f,2d4,2d0 1:3f,2d4,2d0 1:1f,2d4,2d1 1:3f,2d4,2d1 1:20,2d1 " ++
  "1:40,2d1 1:20,2d7 1:40,2d7 1:22,2d7 1:42,2d7 1:22,2f3 1:42,2f3 1:22,2f3,2d4 1:42,2f3,2d4 " ++
  "1:22,301 1:42,301 1:23,2d7 1:43,2d7 1:23,2f3 1:43,2f3 1:23,2d1,2d7 1:43,2d1,2d7 " ++
  "1:23,2dc,2d7 1:43,2dc,2d7 1:23,2f3,2d7 1:43,2f3,2d7 1:24,2d7 1:44,2d7 1:24,2f3 1:44,2f3 " ++
  "1:24,301 1:44,301 1:24,2fd 1:44,2fd 1:25,2f4 1:45,2f4 1:25,300 1:45,300 1:25,2fd 1:45,2fd " ++
  "1:25,2d3,2d1 1:45,2d3,2d1 1:25,2d4,2d8 1:45,2d4,2d8 1:26,2d3 1:46,2d3 1:26,2f3 1:46,2f3 " ++
  "1:27,2d0 1:47,2d0 1:27,2d1 1:47,2d1 1:27,2d8 1:47,2d8 1:27,2d7 1:47,2d7 1:27,2f3 1:47,2f3 " ++
  "1:28,2d7 1:48,2d7 1:28,2d8 1:48,2d8 1:29,2d7 1:49,2d7 1:2a,2d2 1:4a,2d2 1:2a,2f3 1:4a,2f3 " ++
  "1:2a,301 1:4a,301 1:38,301 1:44,2d8 1:47,2da 1:49,2da 1:31,28e 1:43,2d7 5:11,2f3 1:31,2f3 " ++
  "1:11,2d9 1:31,2d9 1:11,2d2,2d1 1:31,2d2,2d1 1:11,2d2,2d0 1:31,2d2,2d0 1:11,2d2,2d9 " ++
  "1:31,2d2,2d9 1:11,2d2,2d3 1:31,2d2,2d3 1:11,2f3,2d2 1:31,2f3,2d2 1:11,2d6,2d1 1:31,2d6,2d1 " ++
  "1:11,2d6,2d0 1:31,2d6,2d0 1:11,2d6,2d9 1:31,2d6,2d9 1:11,2d6,2d3 1:31,2d6,2d3 1:11,2f3,2d6 " ++
  "1:31,2f3,2d6 1:15,2f3 1:35,2f3 1:15,2d9 1:35,2d9 1:15,2d3 1:35,2d3 1:15,2d2,2d1 " ++
  "1:35,2d2,2d1 1:15,2d2,2d0 1:35,2d2,2d0 1:15,2d2,2d9 1:35,2d2,2d9 1:15,2d2,2d3 1:35,2d2,2d3 " ++
  "1:15,2f3,2d2 1:35,2f3,2d2 1:19,2d9 1:39,2d9 1:19,2f3 1:39,2f3 1:1f,2f3 1:3f,2f3 1:1f,2d9 " ++
  "1:3f,2d9 1:1f,2d2,2d1 1:3f,2d2,2d1 1:1f,2d2,2d0 1:3f,2d2,2d0 1:1f,2d2,2d9 1:3f,2d2,2d9 " ++
  "1:1f,2d2,2d3 1:3f,2d2,2d3 1:1f,2f3,2d2 1:3f,2f3,2d2 1:1f,2eb,2d1 1:3f,2eb,2d1 1:1f,2eb,2d0 " ++
  "1:3f,2eb,2d0 1:1f,2eb,2d9 1:3f,2eb,2d9 1:1f,2eb,2d3 1:3f,2eb,2d3 1:1f,2eb,2f3 1:3f,2eb,2f3 " ++
  "1:25,2f3 1:45,2f3 1:25,2d9 1:45,2d9 1:25,2eb,2d1 1:45,2eb,2d1 1:25,2eb,2d0"

/-- Decompositions (part 3). -/
def decompositionEntries3 : String :=
  "1:45,2eb,2d0 1:25,2eb,2d9 1:45,2eb,2d9 1:25,2eb,2d3 1:45,2eb,2d3 1:25,2eb,2f3 1:45,2eb,2f3 " ++
  "1:29,2d0 1:49,2d0 1:29,2f3 1:49,2f3 1:29,2d9 1:49,2d9 1:29,2d3 1:49,2d3 7:381,2e3 " ++
  "1:381,2e4 1:381,2e3,2d0 1:381,2e4,2d0 1:381,2e3,2d1 1:381,2e4,2d1 1:381,2e3,312 " ++
  "1:381,2e4,312 1:361,2e3 1:361,2e4 1:361,2e3,2d0 1:361,2e4,2d0 1:361,2e3,2d1 1:361,2e4,2d1 " ++
  "1:361,2e3,312 1:361,2e4,312 1:385,2e3 1:385,2e4 1:385,2e3,2d0 1:385,2e4,2d0 1:385,2e3,2d1 " ++
  "1:385,2e4,2d1 3:365,2e3 1:365,2e4 1:365,2e3,2d0 1:365,2e4,2d0 1:365,2e3,2d1 1:365,2e4,2d1 " ++
  "3:387,2e3 1:387,2e4 1:387,2e3,2d0 1:387,2e4,2d0 1:387,2e3,2d1 1:387,2e4,2d1 1:387,2e3,312 " ++
  "1:387,2e4,312 1:367,2e3 1:367,2e4 1:367,2e3,2d0 1:367,2e4,2d0 1:367,2e3,2d1 1:367,2e4,2d1 " ++
  "1:367,2e3,312 1:367,2e4,312 1:389,2e3 1:389,2e4 1:389,2e3,2d0 1:389,2e4,2d0 1:389,2e3,2d1 " ++
  "1:389,2e4,2d1 1:389,2e3,312 1:389,2e4,312 1:369,2e3 1:369,2e4 1:369,2e3,2d0 1:369,2e4,2d0 " ++
  "1:369,2e3,2d1 1:369,2e4,2d1 1:369,2e3,312 1:369,2e4,312 1:38f,2e3 1:38f,2e4 1:38f,2e3,2d0 " ++
  "1:38f,2e4,2d0 1:38f,2e3,2d1 1:38f,2e4,2d1 3:36f,2e3 1:36f,2e4 1:36f,2e3,2d0 1:36f,2e4,2d0 " ++
  "1:36f,2e3,2d1 1:36f,2e4,2d1 3:395,2e3 1:395,2e4 1:395,2e3,2d0 1:395,2e4,2d0 1:395,2e3,2d1 " ++
  "1:395,2e4,2d1 1:395,2e3,312 1:395,2e4,312 2:375,2e4 2:375,2e4,2d0 2:375,2e4,2d1 " ++
  "2:375,2e4,312 1:399,2e3 1:399,2e4 1:399,2e3,2d0 1:399,2e4,2d0 1:399,2e3,2d1 1:399,2e4,2d1 " ++
  "1:399,2e3,312 1:399,2e4,312 1:379,2e3 1:379,2e4 1:379,2e3,2d0 1:379,2e4,2d0 1:379,2e3,2d1 " ++
  "1:379,2e4,2d1 1:379,2e3,312 1:379,2e4,312 1:381,2d0 1:381,2d1 1:385,2d0 1:385,2d1 " ++
  "1:387,2d0 1:387,2d1 1:389,2d0 1:389,2d1 1:38f,2d0 1:38f,2d1 1:395,2d0 1:395,2d1 1:399,2d0 " ++
  "1:399,2d1 3:381,2e3,315 1:381,2e4,315 1:381,2e3,2d0,315 1:381,2e4,2d0,315 " ++
  "1:381,2e3,2d1,315 1:381,2e4,2d1,315 1:381,2e3,312,315 1:381,2e4,312,315 1:361,2e3,315 " ++
  "1:361,2e4,315 1:361,2e3,2d0,315 1:361,2e4,2d0,315 1:361,2e3,2d1,315 1:361,2e4,2d1,315 " ++
  "1:361,2e3,312,315 1:361,2e4,312,315 1:387,2e3,315 1:387,2e4,315 1:387,2e3,2d0,315 " ++
  "1:387,2e4,2d0,315 1:387,2e3,2d1,315 1:387,2e4,2d1,315 1:387,2e3,312,315 1:387,2e4,312,315 " ++
  "1:367,2e3,315 1:367,2e4,315 1:367,2e3,2d0,315 1:367,2e4,2d0,315 1:367,2e3,2d1,315 " ++
  "1:367,2e4,2d1,315 1:367,2e3,312,315 1:367,2e4,312,315 1:399,2e3,315 1:399,2e4,315 " ++
  "1:399,2e3,2d0,315 1:399,2e4,2d0,315 1:399,2e3,2d1,315 1:399,2e4,2d1,315 1:399,2e3,312,315 " ++
  "1:399,2e4,312,315 1:379,2e3,315 1:379,2e4,315 1:379,2e3,2d0,315 1:379,2e4,2d0,315 " ++
  "1:379,2e3,2d1,315 1:379,2e4,2d1,315 1:379,2e3,312,315 1:379,2e4,312,315 1:381,2d6 " ++
  "1:381,2d4 1:381,2d0,315 1:381,315 1:381,2d1,315 2:381,312 1:381,312,315 1:361,2d6 " ++
  "1:361,2d4 1:361,2d0 1:361,2d1 1:361,315 2:389 4:387,2d0,315 1:387,315 1:387,2d1,315 " ++
  "2:387,312 1:387,312,315 1:365,2d0 1:365,2d1 1:367,2d0 1:367,2d1 1:367,315 4:389,2d6 " ++
  "1:389,2d4 1:389,2d8,2d0 1:389,2d8,2d1 3:389,312 1:389,2d8,312 1:369,2d6 1:369,2d4 " ++
  "1:369,2d0 1:369,2d1 5:395,2d6 1:395,2d4 1:395,2d8,2d0 1:395,2d8,2d1 1:391,2e3 1:391,2e4 " ++
  "1:395,312 1:395,2d8,312 1:375,2d6 1:375,2d4 1:375,2d0 1:375,2d1 1:371,2e4 6:399,2d0,315 " ++
  "1:399,315 1:399,2d1,315 2:399,312 1:399,312,315 1:36f,2d0 1:36f,2d1 1:379,2d0 1:379,2d1 " ++
  "1:379,315 75:39 e:3e 11:31 1:35 1:3f 1:48 1:229 1:38 1:3b 1:3c 1:3d 1:3e 1:40 1:43 1:44 " ++
  "66:13 5:160 3:37 1:18 1:18 1:18 1:38 1:f7 1:19 1:19 1:1c 1:3c 2:1e 4:20 1:21 1:22 1:22 " ++
  "1:22 7:2a 2:379 2:2a 2:1b 1:11,2da 1:12 1:13 2:35 1:15 1:16 2:1d 1:3f 1:5a0 1:5a1 1:5a2 " ++
  "1:5a3 1:39 3:390 1:383 1:363 1:370 6:14 1:34 1:35 1:39 1:3a 17:19 1:19,19 1:19,19,19 " ++
  "1:19,26 1:26 1:26,19 1:26,19,19 1:26,19,19,19 1:19,28 1:28 1:28,19 1:28,19,19 1:1c 1:13 " ++
  "1:14 1:1d 1:39 1:39,39 1:39,39,39 1:39,46 1:46 1:46,39 1:46,39,39 1:46,39,39,39 1:39,48 " ++
  "1:48 1:48,39 1:48,39,39 1:3c 1:33 1:34 1:3d afd:3a 1:26 f2:2d31 2c9:5311 1:5314 1:5315 " ++
  "12:301b,3069 2:301d,3069 2:301f,3069 2:3021,3069 2:3023,3069 2:3025,3069 2:3027,3069 " ++
  "2:3029,3069 2:302b,3069 2:302d,3069 2:302f,3069 2:3031,3069 3:3034,3069 2:3036,3069 " ++
  "2:3038,3069 7:303f,3069 1:303f,306a 2:3042,3069 1:3042,306a 2:3045,3069 1:3045,306a " ++
  "2:3048,3069 1:3048,306a 2:304b,3069 1:304b,306a 17:3016,3069 a:306d,3069 1:3058,305a " ++
  "d:307b,3069 2:307d,3069 2:307f,3069 2:3081,3069 2:3083,3069 2:3085,3069 2:3087,3069 " ++
  "2:3089,3069 2:308b,3069 2:308d,3069 2:308f,3069 2:3091,3069 3:3094,3069 2:3096,3069 " ++
  "2:3098,3069 7:309f,3069 1:309f,306a 2:30a2,3069 1:30a2,306a 2:30a5,3069 1:30a5,306a " ++
  "2:30a8,3069 1:30a8,306a 2:30ab,3069 1:30ab,306a 17:3076,3069 3:30bf,3069 1:30c0,3069 " ++
  "1:30c1,3069 1:30c2,3069 4:30cd,3069 1:3083,3098 32:10d0 1:10d1 1:117a 1:10d2 1:117c 1:117d " ++
  "1:10d3 1:10d4 1:10d5 1:1180"

/-- Decompositions (part 4). -/
def decompositionEntries4 : String :=
  "1:1181 1:1182 1:1183 1:1184 1:1185 1:10ea 1:10d6 1:10d7 1:10d8 1:10f1 1:10d9 1:10da 1:10db " ++
  "1:10dc 1:10dd 1:10de 1:10df 1:10e0 1:10e1 1:10e2 1:1131 1:1132 1:1133 1:1134 1:1135 1:1136 " ++
  "1:1137 1:1138 1:1139 1:113a 1:113b 1:113c 1:113d 1:113e 1:113f 1:1140 1:1141 1:1142 1:1143 " ++
  "1:1144 1:1145 1:1130 1:10e4 1:10e5 1:1197 1:1198 1:119c 1:119e 1:11a3 1:11a7 1:11a9 1:10ec " ++
  "1:11ad 1:11af 1:10ed 1:10ee 1:10f0 1:10f2 1:10f3 1:10f7 1:10f9 1:10fb 1:10fc 1:10fd 1:10fe " ++
  "1:10ff 1:1102 1:1106 1:1110 1:1117 1:111c 1:11c1 1:11c2 1:1127 1:1128 1:1129 1:1154 1:1155 " ++
  "1:1158 1:1161 1:1162 1:1164 1:116e 1:1171 750e:41a 1:41c d3:a73f 82:13 1:16 1:21 4:f6 " ++
  "1:123 363:a6f7 1:ab07 1:23b 1:ab22 a:25d 4d97:8c18 1:66c4 1:8e9a 1:8c98 1:6ea1 1:4e02 " ++
  "1:53b5 1:9f6c 1:9f6c 1:5921 1:91a1 1:5557 1:5918 1:61c6 1:7639 1:7f55 1:860f 1:878a 1:88c8 " ++
  "1:905f 1:69d2 1:6ceb 1:70a9 1:73ae 1:840d 1:913a 1:99c1 1:4e52 1:5345 1:6ad4 1:71eb 1:85fd " ++
  "1:9dee 1:5d20 1:6fbb 1:859d 1:8934 1:6299 1:81a8 1:87ef 1:5e9a 1:66e7 1:6d3a 1:72cc 1:909e " ++
  "1:4f56 1:5187 1:52ae 1:6494 1:6aa3 1:71e0 1:76b7 1:7fd1 1:85d6 1:862c 1:8dbf 1:9702 1:9b3f " ++
  "1:9dca 1:785c 1:794f 1:7d70 1:8399 1:92d4 1:9e4f 1:8aa6 1:58af 1:5ed4 1:7c30 1:804e 1:7232 " ++
  "1:789a 1:8c92 1:96c7 1:58a8 1:5c32 1:69e3 1:6daa 1:6edf 1:7cff 1:7e07 1:961b 1:52a2 1:805b " ++
  "1:51ac 1:519c 1:79ec 1:7d8e 1:83c1 1:9645 1:8b50 1:629f 1:69d2 1:8ace 1:4e09 1:5bb7 1:5fe2 " ++
  "1:7357 1:7540 1:52e7 1:78cb 1:4f8f 1:5f79 1:4ddd 1:6c9c 1:6548 1:7cf2 1:5393 1:582e 1:76d1 " ++
  "1:8419 1:8a7a 1:6b8a 1:8f80 1:6c58 1:62ce 1:82b5 1:6370 1:7535 1:4e7e 1:5139 1:5199 1:6851 " ++
  "1:7cb7 1:823f 1:8aa2 1:919f 1:52c5 1:5412 1:5943 1:5ebc 1:6595 1:6fce 1:78fa 1:957d 1:9a3a " ++
  "1:9e67 1:9e9e 1:526b 1:6696 1:6b47 1:8f32 1:5e44 1:6160 1:61d0 1:646a 1:6ef3 1:7119 1:7459 " ++
  "1:799a 1:7dc4 1:803f 1:8ef6 1:84be 1:8ff3 1:931a 1:51e7 1:5273 1:548d 1:7098 1:8892 1:8a7a " ++
  "1:5e99 1:5fc5 1:634b 1:6b7e 1:7c0e 1:7345 1:4eb4 1:56c9 1:5bb7 1:5d8a 1:5fec 1:7382 1:7439 " ++
  "1:7f6a 1:8016 1:9204 1:96c6 1:9718 1:97e8 1:4f5b 1:797e 1:9184 1:9688 1:60b1 1:4e56 1:50aa " ++
  "1:5bbe 1:5c0f 1:6569 1:69d2 1:719e 1:7612 1:84cc 1:904c 1:9f5d 1:6658 1:95fe 1:5259 1:674b " ++
  "1:67c3 1:6d11 1:6e6c 1:73d9 1:7529 1:783b 1:7ce0 1:982e 1:513d 1:61fe 1:9648 1:4ffb 1:5ce9 " ++
  "1:6dba 1:8efa 1:5f5b 1:6114 1:67e7 1:7357 1:9656 1:51f9 1:53df 1:5c35 1:65e3 1:671e 1:6878 " ++
  "1:6cb5 1:73d6 1:75b2 1:7f49 1:889f 1:88b1 1:919c 1:96b2 1:530f 1:6e8a 1:53ed 1:71a0 1:7468 " ++
  "1:85ca 1:9673 1:9c27 1:9e6f 1:6767 1:6d9b 1:81b8 1:7a9b 1:7af0 1:7c62 1:7290 1:7069 1:8b28 " ++
  "1:4e90 1:8306 1:520a 1:51d7 1:5e76 1:62a3 1:7ca6 1:5b55 1:6cee 1:6684 1:8f0b 1:881c 1:961d " ++
  "1:895b 1:5ea3 1:5110 1:5590 3:582a 2:6644 3:51ae 1:72fa 1:769a 1:790c 1:792e 1:7935 1:795f " ++
  "1:9726 1:7c8e 1:7f8d 2:85e2 2:8ac8 3:9008 1:90cd 4:98bf 1:98cc 1:98f8 1:9d84 1:90ae 1:9687 " ++
  "1:4f7e 1:50b7 1:511d 1:5299 1:52b4 1:5321 1:556d 1:55d6 1:5638 1:5810 1:5878"

/-- Decompositions (part 5). -/
def decompositionEntries5 : String :=
  "1:5c34 1:5c3e 1:6064 1:6138 1:615e 1:61c2 1:651f 1:65b2 1:6661 1:6855 1:6d47 1:6dea 1:6ef2 " ++
  "1:713e 1:71fb 1:73f2 1:7861 1:790e 1:7919 1:7918 1:7920 1:7926 1:792d 1:795d 1:795e 1:7a10 " ++
  "1:7a51 1:7b90 1:7dc4 1:7dd9 1:7e11 1:7f42 1:7fd5 1:81bd 1:8249 1:8249 1:8427 1:88e0 1:8966 " ++
  "1:8ad1 1:8b09 1:8ca3 1:8cd8 1:8f86 1:9008 1:96b3 1:97cf 1:980b 1:6045 1:242be 1:81e8 " ++
  "3:4df6 1:5185 1:5138 1:4f50 1:5115 1:5150 1:5297 1:52ca 1:556d 1:5525 1:5569 1:55b2 1:582a " ++
  "1:5883 1:5914 1:5924 1:5a32 1:5af8 1:5ea2 1:5ea9 1:5f39 1:5f7d 1:60a8 1:611e 1:60d8 1:615e " ++
  "1:6130 1:61c2 1:6204 1:6394 1:63ec 1:6422 1:6526 1:6644 1:66e7 1:66eb 1:6726 1:6b49 1:6b8a " ++
  "1:6d11 1:6eab 1:6e9b 1:6ef2 1:6fee 1:713e 1:7777 1:7205 1:727f 1:72fa 1:7441 1:74d6 1:750b " ++
  "1:75ed 1:75ef 1:769a 1:76ab 1:76c4 1:771a 1:7710 1:789c 1:7a81 1:7b90 1:7c4b 1:7d2b 1:7dc4 " ++
  "1:7f0e 1:7fd5 1:8322 1:83bf 1:8749 1:8911 1:8956 1:8966 1:8a8f 1:8ac8 1:8a9b 1:8ad1 1:8ace " ++
  "1:8abd 1:8b09 1:8b5a 1:8cd8 1:8f08 1:9042 1:9169 1:9246 1:964c 1:96b3 1:9726 1:97ab 1:97cf " ++
  "1:97db 1:980b 1:9ae2 1:9f6c 1:2281a 1:22814 1:233a5 1:3b6d 1:3fe8 1:4009 1:25219 1:25ca0 " ++
  "1:27ea3 1:9f13 1:9f5e 27:36,36 1:36,39 1:36,3c 1:36,36,39 1:36,36,3c 1:43,44 1:43,44 " ++
  "d:544,546 1:544,535 1:544,53b 1:54e,546 1:544,53d 6:5a9,584 2:5c2,587 1:5b2 1:5a0 1:5a3 " ++
  "1:5a4 1:5ab 1:5ac 1:5ad 1:5b8 1:5ba 2:5b9,591 1:5b9,592 1:5b9,58c,591 1:5b9,58c,592 " ++
  "1:5a0,587 1:5a0,588 1:5a0,58c 1:5a1,58c 1:5a2,58c 1:5a3,58c 1:5a4,58c 1:5a5,58c 1:5a6,58c " ++
  "2:5a8,58c 1:5a9,58c 1:5aa,58c 1:5ab,58c 1:5ac,58c 2:5ae,58c 2:5b0,58c 1:5b1,58c 2:5b3,58c " ++
  "1:5b4,58c 2:5b6,58c 1:5b7,58c 1:5b8,58c 1:5b9,58c 1:5ba,58c 1:5a5,589 1:5a1,58f 1:5ab,58f " ++
  "1:5b4,58f 1:5a0,5ac 1:641 1:641 1:64b 1:64b 1:64b 1:64b 1:64e 1:64e 1:64e 1:64e 1:650 " ++
  "1:650 1:650 1:650 1:64a 1:64a 1:64a 1:64a 1:64f 1:64f 1:64f 1:64f 1:649 1:649 1:649 1:649 " ++
  "1:674 1:674 1:674 1:674 1:676 1:676 1:676 1:676 1:654 1:654 1:654 1:654 1:653 1:653 1:653 " ++
  "1:653 1:656 1:656 1:656 1:656 1:657 1:657 1:657 1:657 1:65d 1:65d 1:65c 1:65c 1:65e 1:65e " ++
  "1:658 1:658 1:668 1:668 1:661 1:661 1:679 1:679 1:679 1:679 1:67f 1:67f 1:67f 1:67f 1:683 " ++
  "1:683 1:683 1:683 1:681 1:681 1:681 1:681 1:68a 1:68a 1:68b 1:68b 1:68b 1:68b 1:6a5,624 " ++
  "1:6a5,624 1:691 1:691 1:691 1:691 1:68e 1:68e 1:68e 1:68e 1:6a2 1:6a2 1:6a2,624 1:6a2,624 " ++
  "22:67d 1:67d 1:67d 1:67d 1:697 1:697 1:696 1:696 1:698 1:698 1:697,644 1:69b 1:69b 1:695 " ++
  "1:695 1:699 1:699 1:6a0 1:6a0 1:6a0 1:6a0 1:619 1:619 1:61a,624,5f7 1:61a,624,5f7 " ++
  "1:61a,624,6a5 1:61a,624,6a5 1:61a,624,618 1:61a,624,618 1:61a,624,697 1:61a,624,697 " ++
  "1:61a,624,696 1:61a,624,696 1:61a,624,698 1:61a,624,698 1:61a,624,6a0 1:61a,624,6a0 " ++
  "1:61a,624,6a0 1:61a,624,619 1:61a,624,619 1:61a,624,619 1:69c 1:69c 1:69c 1:69c " ++
  "1:61a,624,5fc 1:61a,624,5fd 1:61a,624,615 1:61a,624,619 1:61a,624,61a 1:5f8,5fc 1:5f8,5fd " ++
  "1:5f8,5fe 1:5f8,615 1:5f8,619 1:5f8,61a 1:5fa,5fc 1:5fa,5fd 1:5fa,5fe 1:5fa,615 1:5fa,619 " ++
  "1:5fa,61a 1:5fb,5fc 1:5fb,615 1:5fb,619 1:5fb,61a 1:5fc,5fd 1:5fc,615 1:5fd,5fc 1:5fd,615 " ++
  "1:5fe,5fc 1:5fe,5fd 1:5fe,615 1:603,5fc 1:603,5fd 1:603,5fe 1:603,615 1:605,5fd 1:605,615 " ++
  "1:606,5fc 1:606,5fd 1:606,5fe 1:606,615 1:607,5fd 1:607,615 1:608,615 1:609,5fc 1:609,615 " ++
  "1:60a,5fc"

/-- Decompositions (part 6). -/
def decompositionEntries6 : String :=
  "1:60a,615 1:611,5fc 1:611,5fd 1:611,5fe 1:611,615 1:611,619 1:611,61a 1:612,5fd 1:612,615 " ++
  "1:612,619 1:612,61a 1:613,5f7 1:613,5fc 1:613,5fd 1:613,5fe 1:613,614 1:613,615 1:613,619 " ++
  "1:613,61a 1:614,5fc 1:614,5fd 1:614,5fe 1:614,615 1:614,619 1:614,61a 1:615,5fc 1:615,5fd " ++
  "1:615,5fe 1:615,615 1:615,619 1:615,61a 1:616,5fc 1:616,5fd 1:616,5fe 1:616,615 1:616,619 " ++
  "1:616,61a 1:617,5fc 1:617,615 1:617,619 1:617,61a 1:61a,5fc 1:61a,5fd 1:61a,5fe 1:61a,615 " ++
  "1:61a,619 1:61a,61a 1:600,640 1:601,640 1:619,640 7:61a,624,601 1:61a,624,602 " ++
  "1:61a,624,615 1:61a,624,616 1:61a,624,619 1:61a,624,61a 1:5f8,601 1:5f8,602 1:5f8,615 " ++
  "1:5f8,616 1:5f8,619 1:5f8,61a 1:5fa,601 1:5fa,602 1:5fa,615 1:5fa,616 1:5fa,619 1:5fa,61a " ++
  "1:5fb,601 1:5fb,602 1:5fb,615 1:5fb,616 1:5fb,619 1:5fb,61a 1:611,619 1:611,61a 1:612,619 " ++
  "1:612,61a 1:613,5f7 1:613,614 1:613,615 1:613,619 1:613,61a 1:614,615 1:614,619 1:614,61a " ++
  "1:615,5f7 1:615,615 1:616,601 1:616,602 1:616,615 1:616,616 1:616,619 1:616,61a 1:619,640 " ++
  "1:61a,601 1:61a,602 1:61a,615 1:61a,616 1:61a,619 1:61a,61a 1:61a,624,5fc 1:61a,624,5fd " ++
  "1:61a,624,5fe 1:61a,624,615 1:61a,624,617 1:5f8,5fc 1:5f8,5fd 1:5f8,5fe 1:5f8,615 " ++
  "1:5f8,617 1:5fa,5fc 1:5fa,5fd 1:5fa,5fe 1:5fa,615 1:5fa,617 1:5fb,615 1:5fc,5fd 1:5fc,615 " ++
  "1:5fd,5fc 1:5fd,615 1:5fe,5fc 1:5fe,615 1:603,5fc 1:603,5fd 1:603,5fe 1:603,615 1:605,5fd " ++
  "1:605,5fe 1:605,615 1:606,5fc 1:606,5fd 1:606,5fe 1:606,615 1:607,5fd 1:608,615 1:609,5fc " ++
  "1:609,615 1:60a,5fc 1:60a,615 1:611,5fc 1:611,5fd 1:611,5fe 1:611,615 1:612,5fd 1:612,615 " ++
  "1:613,5fc 1:613,5fd 1:613,5fe 1:613,614 1:613,615 1:614,5fc 1:614,5fd 1:614,5fe 1:614,615 " ++
  "1:614,617 1:615,5fc 1:615,5fd 1:615,5fe 1:615,615 1:616,5fc 1:616,5fd 1:616,5fe 1:616,615 " ++
  "1:616,617 1:617,5fc 1:617,615 1:617,640 1:61a,5fc 1:61a,5fd 1:61a,5fe 1:61a,615 1:61a,617 " ++
  "1:61a,624,615 1:61a,624,617 1:5f8,615 1:5f8,617 1:5fa,615 1:5fa,617 1:5fb,615 1:5fb,617 " ++
  "1:603,615 1:603,617 1:604,615 1:604,617 1:613,614 1:613,615 1:614,615 1:616,615 1:616,617 " ++
  "1:61a,615 1:61a,617 1:610,61e,621 1:610,61f,621 1:610,620,621 1:607,619 1:607,61a " ++
  "1:609,619 1:609,61a 1:60a,619 1:60a,61a 1:603,619 1:603,61a 1:604,619 1:604,61a 1:5fd,619 " ++
  "1:5fd,61a 1:5fc,619 1:5fc,61a 1:5fe,619 1:5fe,61a 1:605,619 1:605,61a 1:606,619 1:606,61a " ++
  "1:604,5fc 1:604,5fd 1:604,5fe 1:604,615 1:604,601 1:603,601 1:605,601 1:606,601 1:607,619 " ++
  "1:607,61a 1:609,619 1:609,61a 1:60a,619 1:60a,61a 1:603,619 1:603,61a 1:604,619 1:604,61a " ++
  "1:5fd,619 1:5fd,61a 1:5fc,619 1:5fc,61a 1:5fe,619 1:5fe,61a 1:605,619 1:605,61a 1:606,619 " ++
  "1:606,61a 1:604,5fc 1:604,5fd 1:604,5fe 1:604,615 1:604,601 1:603,601 1:605,601 1:606,601 " ++
  "1:604,5fc 1:604,5fd 1:604,5fe 1:604,615 1:603,617 1:604,617 1:607,615 1:603,5fc 1:603,5fd " ++
  "1:603,5fe 1:604,5fc 1:604,5fd 1:604,5fe 1:607,615 1:608,615 1:5f7,61b 1:5f7,61b " ++
  "13:5fa,5fc,615 1:5fa,5fd,5fc 1:5fa,5fd,5fc 1:5fa,5fd,615 1:5fa,5fe,615 1:5fa,615,5fc " ++
  "1:5fa,615,5fd 1:5fa,615,5fe 1:5fc,615,5fd 1:5fc,615,5fd 1:5fd,615,61a 1:5fd,615,619 " ++
  "1:603,5fd,5fc 1:603,5fc,5fd 1:603,5fc,619 1:603,615,5fd 1:603,615,5fd 1:603,615,5fc " ++
  "1:603,615,615 1:603,615,615 1:605,5fd,5fd 1:605,5fd,5fd 1:605,615,615 1:604,5fd,615 " ++
  "1:604,5fd,615 1:604,5fc,61a 1:604,615,5fe 1:604,615,5fe 1:604,615,615 1:604,615,615 " ++
  "1:606,5fd,619 1:606,5fe,615 1:606,5fe,615 1:607,615,5fd 1:607,615,5fd 1:607,615,615 " ++
  "1:607,615,61a 1:609,5fc,615 1:609,615,615 1:609,615,615 1:609,615,619 1:60a,615,615 " ++
  "1:60a,615,61a 1:60a,615,619 1:611,5fe,615 1:611,5fe,615 1:612,615,5fd 1:612,615,615 " ++
  "1:614,5fd,615 1:614,5fd,61a 1:614,5fd,619 1:614,5fc,5fc 1:614,5fc,5fc 1:614,5fe,615 " ++
  "1:614,5fe,615 1:614,615,5fd 1:614,615,5fd 1:615,5fd,5fc 1:615,5fd,615 1:615,5fd,61a " ++
  "1:615,5fc,5fd 1:615,5fc,615 1:615,5fe,5fc 1:615,5fe,615 3:615,5fc,5fe 1:617,615,5fc " ++
  "1:617,615,615 1:616,5fd,615 1:616,5fd,619 1:616,5fc,615 1:616,5fc,615 1:616,5fc,619 " ++
  "1:616,615,61a 1:616,615,619 1:61a,615,615 1:61a,615,615 1:5f8,5fe,61a 1:5fa,5fc,61a " ++
  "1:5fa,5fc,619 1:5fa,5fe,61a 1:5fa,5fe,619 1:5fa,615,61a 1:5fa,615,619 1:5fc,615,61a " ++
  "1:5fc,5fd,619 1:5fc,615,619 1:603,5fe,619 1:605,5fd,61a 1:604,5fd,61a 1:606,5fd,61a " ++
  "1:614,5fc,61a 1:614,615,61a 1:61a,5fd,61a 1:61a,5fc,61a 1:61a,615,61a 1:615,615,61a " ++
  "1:612,615,61a 1:616,5fd,61a 1:612,615,5fd 1:614,5fd,615 1:609,615,61a 1:613,615,61a " ++
  "1:616,5fc,5fd 1:615,5fe,61a 1:614,5fc,615 1:613,615,615 1:614,5fc,615 1:616,5fc,5fd " ++
  "1:5fc,5fd,61a 1:5fd,5fc,61a 1:615,5fc,61a 1:611,615,61a 1:5f8,5fd,61a 1:613,615,615 " ++
  "1:609,5fc,615 1:605,615,615 1:603,5fe,61a 1:616,5fc,61a 29:605,614,6a2 1:612,614,6a2 " ++
  "1:5f7,614,614,617 1:5f7,613,5f8,601 1:615,5fd,615,5ff 1:605,614,609,615 1:601,603,618,614 " ++
  "1:609,614,61a,617 1:618,603,614,615 1:605,614,619 3a:2f 1:2f 19:2f 1:2f"

/-- Decompositions (part 7). -/
def decompositionEntries7 : String :=
  "1:2f 22:610,61b 6:610,61e 2:610,61f 2:610,620 2:610,621 2:610,622 1:5f1 1:5f7,623 " ++
  "1:5f7,623 1:5f7,624 1:5f7,624 1:618,624 1:618,624 1:5f7,625 1:5f7,625 1:61a,624 1:61a,624 " ++
  "1:61a,624 1:61a,624 1:5f7 1:5f7 1:5f8 1:5f8 1:5f8 1:5f8 1:5f9 1:5f9 1:5fa 1:5fa 1:5fa " ++
  "1:5fa 1:5fb 1:5fb 1:5fb 1:5fb 1:5fc 1:5fc 1:5fc 1:5fc 1:5fd 1:5fd 1:5fd 1:5fd 1:5fe 1:5fe " ++
  "1:5fe 1:5fe 1:5ff 1:5ff 1:600 1:600 1:601 1:601 1:602 1:602 1:603 1:603 1:603 1:603 1:604 " ++
  "1:604 1:604 1:604 1:605 1:605 1:605 1:605 1:606 1:606 1:606 1:606 1:607 1:607 1:607 1:607 " ++
  "1:608 1:608 1:608 1:608 1:609 1:609 1:609 1:609 1:60a 1:60a 1:60a 1:60a 1:611 1:611 1:611 " ++
  "1:611 1:612 1:612 1:612 1:612 1:613 1:613 1:613 1:613 1:614 1:614 1:614 1:614 1:615 1:615 " ++
  "1:615 1:615 1:616 1:616 1:616 1:616 1:617 1:617 1:617 1:617 1:618 1:618 1:619 1:619 1:61a " ++
  "1:61a 1:61a 1:61a 1:614,5f7,623 1:614,5f7,623 1:614,5f7,624 1:614,5f7,624 1:614,5f7,625 " ++
  "1:614,5f7,625 1:614,5f7 1:614,5f7 14:0 1:1 1:2 1:3 1:4 1:5 1:6 1:7 1:8 1:9 8:11 1:12 1:13 " ++
  "1:14 1:15 1:16 1:17 1:18 1:19 1:1a 1:1b 1:1c 1:1d 1:1e 1:1f 1:20 1:21 1:22 1:23 1:24 1:25 " ++
  "1:26 1:27 1:28 1:29 1:2a 5:2f 2:31 1:32 1:33 1:34 1:35 1:36 1:37 1:38 1:39 1:3a 1:3b 1:3c " ++
  "1:3d 1:3e 1:3f 1:40 1:41 1:42 1:43 1:44 1:45 1:46 1:47 1:48 1:49 1:4a c:30c2 1:3071 1:3073 " ++
  "1:3075 1:3077 1:3079 1:30b3 1:30b5 1:30b7 1:3093 1:30cc 1:3072 1:3074 1:3076 1:3078 1:307a " ++
  "1:307b 1:307d 1:307f 1:3081 1:3083 1:3085 1:3087 1:3089 1:308b 1:308d 1:308f 1:3091 1:3094 " ++
  "1:3096 1:3098 1:309a 1:309b 1:309c 1:309d 1:309e 1:309f 1:30a2 1:30a5 1:30a8 1:30ab 1:30ae " ++
  "1:30af 1:30b0 1:30b1 1:30b2 1:30b4 1:30b6 1:30b8 1:30b9 1:30ba 1:30bb 1:30bc 1:30bd 1:30bf " ++
  "1:30c3 1:3069 1:306a 1:1130 1:10d0 1:10d1 1:117a 1:10d2 1:117c 1:117d 1:10d3 1:10d4 1:10d5 " ++
  "1:1180 1:1181 1:1182 1:1183 1:1184 1:1185 1:10ea 1:10d6 1:10d7 1:10d8 1:10f1 1:10d9 1:10da " ++
  "1:10db 1:10dc 1:10dd 1:10de 1:10df 1:10e0 1:10e1 1:10e2 4:1131 1:1132 1:1133 1:1134 1:1135 " ++
  "1:1136 3:1137 1:1138 1:1139 1:113a 1:113b 1:113c 3:113d 1:113e 1:113f 1:1140 1:1141 1:1142 " ++
  "3:1143 1:1144 1:1145 7a5:2a0 1:2a1 1:b6 1:269 1:223 2:273 1:ab36 1:275 1:274 1:226 1:227 " ++
  "1:1d61 1:228 1:22e 1:279 1:234 1:232 1:230 1:26b 1:f7 1:26c 1:237 1:254 1:27a 1:27b 1:23c " ++
  "1:1ded4 1:a75e 1:23e 1:1ded5 1:25e 1:1ded6 1:c8 1:246 1:247 1:41 1:24a 1:1ded8 1:24d 1:24e " ++
  "1:250 1:278 1:276 1:ab37 1:277 1:258 1:2c41 2:25f 1:271 1:272 1:268 1:190 1:191 1:192 " ++
  "1:1deda 1:1deee 8e0:11069,1108a 2:1106b,1108a f:11075,1108a 83:11101,110f7 1:11102,110f7 " ++
  "21c:11317,1130e 1:11317,11327 16f:11489,1148a 1:11489,11480 2:11489,1148d fc:11588,1157f " ++
  "1:11589,1157f 37d:11905,11900 bac8:11 1:12 1:13 1:14 1:15 1:16 1:17 1:18 1:19 1:1a 1:1b " ++
  "1:1c 1:1d 1:1e 1:1f 1:20 1:21 1:22 1:23 1:24 1:25 1:26 1:27 1:28 1:29 1:2a"

/-- Decompositions (part 8). -/
def decompositionEntries8 : String :=
  "1:31 1:32 1:33 1:34 1:35 1:36 1:37 1:38 1:39 1:3a 1:3b 1:3c 1:3d 1:3e 1:3f 1:40 1:41 1:42 " ++
  "1:43 1:44 1:45 1:46 1:47 1:48 1:49 1:4a 1:11 1:12 1:13 1:14 1:15 1:16 1:17 1:18 1:19 1:1a " ++
  "1:1b 1:1c 1:1d 1:1e 1:1f 1:20 1:21 1:22 1:23 1:24 1:25 1:26 1:27 1:28 1:29 1:2a 1:31 1:32 " ++
  "1:33 1:34 1:35 1:36 1:37 2:39 1:3a 1:3b 1:3c 1:3d 1:3e 1:3f 1:40 1:41 1:42 1:43 1:44 1:45 " ++
  "1:46 1:47 1:48 1:49 1:4a 1:11 1:12 1:13 1:14 1:15 1:16 1:17 1:18 1:19 1:1a 1:1b 1:1c 1:1d " ++
  "1:1e 1:1f 1:20 1:21 1:22 1:23 1:24 1:25 1:26 1:27 1:28 1:29 1:2a 1:31 1:32 1:33 1:34 1:35 " ++
  "1:36 1:37 1:38 1:39 1:3a 1:3b 1:3c 1:3d 1:3e 1:3f 1:40 1:41 1:42 1:43 1:44 1:45 1:46 1:47 " ++
  "1:48 1:49 1:4a 1:11 2:13 1:14 3:17 3:1a 1:1b 3:1e 1:1f 1:20 1:21 2:23 1:24 1:25 1:26 1:27 " ++
  "1:28 1:29 1:2a 1:31 1:32 1:33 1:34 2:36 2:38 1:39 1:3a 1:3b 1:3c 1:3d 1:3e 2:40 1:41 1:42 " ++
  "1:43 1:44 1:45 1:46 1:47 1:48 1:49 1:4a 1:11 1:12 1:13 1:14 1:15 1:16 1:17 1:18 1:19 1:1a " ++
  "1:1b 1:1c 1:1d 1:1e 1:1f 1:20 1:21 1:22 1:23 1:24 1:25 1:26 1:27 1:28 1:29 1:2a 1:31 1:32 " ++
  "1:33 1:34 1:35 1:36 1:37 1:38 1:39 1:3a 1:3b 1:3c 1:3d 1:3e 1:3f 1:40 1:41 1:42 1:43 1:44 " ++
  "1:45 1:46 1:47 1:48 1:49 1:4a 1:11 1:12 2:14 1:15 1:16 1:17 3:1a 1:1b 1:1c 1:1d 1:1e 1:1f " ++
  "1:20 1:21 2:23 1:24 1:25 1:26 1:27 1:28 1:29 2:31 1:32 1:33 1:34 1:35 1:36 1:37 1:38 1:39 " ++
  "1:3a 1:3b 1:3c 1:3d 1:3e 1:3f 1:40 1:41 1:42 1:43 1:44 1:45 1:46 1:47 1:48 1:49 1:4a 1:11 " ++
  "1:12 2:14 1:15 1:16 1:17 2:19 1:1a 1:1b 1:1c 1:1d 2:1f 4:23 1:24 1:25 1:26 1:27 1:28 1:29 " ++
  "2:31 1:32 1:33 1:34 1:35 1:36 1:37 1:38 1:39 1:3a 1:3b 1:3c 1:3d 1:3e 1:3f 1:40 1:41 1:42 " ++
  "1:43 1:44 1:45 1:46 1:47 1:48 1:49 1:4a 1:11 1:12 1:13 1:14 1:15 1:16 1:17 1:18 1:19 1:1a " ++
  "1:1b 1:1c 1:1d 1:1e 1:1f 1:20 1:21 1:22 1:23 1:24 1:25 1:26 1:27 1:28 1:29 1:2a 1:31 1:32 " ++
  "1:33 1:34 1:35 1:36 1:37 1:38 1:39 1:3a 1:3b 1:3c 1:3d 1:3e 1:3f 1:40 1:41 1:42 1:43 1:44 " ++
  "1:45 1:46 1:47 1:48 1:49 1:4a 1:11 1:12 1:13 1:14 1:15 1:16 1:17 1:18 1:19 1:1a 1:1b 1:1c " ++
  "1:1d 1:1e 1:1f 1:20 1:21 1:22 1:23 1:24 1:25 1:26 1:27 1:28 1:29 1:2a 1:31 1:32 1:33 1:34 " ++
  "1:35 1:36 1:37 1:38"

/-- Decompositions (part 9). -/
def decompositionEntries9 : String :=
  "1:39 1:3a 1:3b 1:3c 1:3d 1:3e 1:3f 1:40 1:41 1:42 1:43 1:44 1:45 1:46 1:47 1:48 1:49 1:4a " ++
  "1:11 1:12 1:13 1:14 1:15 1:16 1:17 1:18 1:19 1:1a 1:1b 1:1c 1:1d 1:1e 1:1f 1:20 1:21 1:22 " ++
  "1:23 1:24 1:25 1:26 1:27 1:28 1:29 1:2a 1:31 1:32 1:33 1:34 1:35 1:36 1:37 1:38 1:39 1:3a " ++
  "1:3b 1:3c 1:3d 1:3e 1:3f 1:40 1:41 1:42 1:43 1:44 1:45 1:46 1:47 1:48 1:49 1:4a 1:11 1:12 " ++
  "1:13 1:14 1:15 1:16 1:17 1:18 1:19 1:1a 1:1b 1:1c 1:1d 1:1e 1:1f 1:20 1:21 1:22 1:23 1:24 " ++
  "1:25 1:26 1:27 1:28 1:29 1:2a 1:31 1:32 1:33 1:34 1:35 1:36 1:37 1:38 1:39 1:3a 1:3b 1:3c " ++
  "1:3d 1:3e 1:3f 1:40 1:41 1:42 1:43 1:44 1:45 1:46 1:47 1:48 1:49 1:4a 1:11 1:12 1:13 1:14 " ++
  "1:15 1:16 1:17 1:18 1:19 1:1a 1:1b 1:1c 1:1d 1:1e 1:1f 1:20 1:21 1:22 1:23 1:24 1:25 1:26 " ++
  "1:27 1:28 1:29 1:2a 1:31 1:32 1:33 1:34 1:35 1:36 1:37 1:38 1:39 1:3a 1:3b 1:3c 1:3d 1:3e " ++
  "1:3f 1:40 1:41 1:42 1:43 1:44 1:45 1:46 1:47 1:48 1:49 1:4a 1:11 1:12 1:13 1:14 1:15 1:16 " ++
  "1:17 1:18 1:19 1:1a 1:1b 1:1c 1:1d 1:1e 1:1f 1:20 1:21 1:22 1:23 1:24 1:25 1:26 1:27 1:28 " ++
  "1:29 1:2a 1:31 1:32 1:33 1:34 1:35 1:36 1:37 1:38 1:39 1:3a 1:3b 1:3c 1:3d 1:3e 1:3f 1:40 " ++
  "1:41 1:42 1:43 1:44 1:45 1:46 1:47 1:48 1:49 1:4a 1:101 1:207 3:361 1:362 1:363 1:364 " ++
  "1:365 1:366 1:367 1:368 1:369 1:36a 1:36b 1:36c 1:36d 1:36e 1:36f 1:370 1:371 1:368 1:373 " ++
  "1:374 1:375 1:376 1:377 1:378 1:379 2:381 1:382 1:383 1:384 1:385 1:386 1:387 1:388 1:389 " ++
  "1:38a 1:38b 1:38c 1:38d 1:38e 1:38f 1:390 1:391 1:392 1:393 1:394 1:395 1:396 1:397 1:398 " ++
  "1:399 2:385 1:388 1:38a 1:396 1:391 1:390 1:361 1:362 1:363 1:364 1:365 1:366 1:367 1:368 " ++
  "1:369 1:36a 1:36b 1:36c 1:36d 1:36e 1:36f 1:370 1:371 1:368 1:373 1:374 1:375 1:376 1:377 " ++
  "1:378 1:379 2:381 1:382 1:383 1:384 1:385 1:386 1:387 1:388 1:389 1:38a 1:38b 1:38c 1:38d " ++
  "1:38e 1:38f 1:390 1:391 1:392 1:393 1:394 1:395 1:396 1:397 1:398 1:399 2:385 1:388 1:38a " ++
  "1:396 1:391 1:390 1:361 1:362 1:363 1:364 1:365 1:366 1:367 1:368 1:369 1:36a 1:36b 1:36c " ++
  "1:36d 1:36e 1:36f 1:370 1:371 1:368 1:373 1:374 1:375 1:376 1:377 1:378 1:379 2:381 1:382 " ++
  "1:383 1:384 1:385 1:386 1:387 1:388 1:389 1:38a 1:38b 1:38c 1:38d 1:38e 1:38f 1:390 1:391 " ++
  "1:392 1:393 1:394 1:395 1:396 1:397 1:398 1:399 2:385 1:388 1:38a 1:396 1:391 1:390 1:361 " ++
  "1:362 1:363 1:364"

/-- Decompositions (part 10). -/
def decompositionEntries10 : String :=
  "1:365 1:366 1:367 1:368 1:369 1:36a 1:36b 1:36c 1:36d 1:36e 1:36f 1:370 1:371 1:368 1:373 " ++
  "1:374 1:375 1:376 1:377 1:378 1:379 2:381 1:382 1:383 1:384 1:385 1:386 1:387 1:388 1:389 " ++
  "1:38a 1:38b 1:38c 1:38d 1:38e 1:38f 1:390 1:391 1:392 1:393 1:394 1:395 1:396 1:397 1:398 " ++
  "1:399 2:385 1:388 1:38a 1:396 1:391 1:390 1:361 1:362 1:363 1:364 1:365 1:366 1:367 1:368 " ++
  "1:369 1:36a 1:36b 1:36c 1:36d 1:36e 1:36f 1:370 1:371 1:368 1:373 1:374 1:375 1:376 1:377 " ++
  "1:378 1:379 2:381 1:382 1:383 1:384 1:385 1:386 1:387 1:388 1:389 1:38a 1:38b 1:38c 1:38d " ++
  "1:38e 1:38f 1:390 1:391 1:392 1:393 1:394 1:395 1:396 1:397 1:398 1:399 2:385 1:388 1:38a " ++
  "1:396 1:391 1:390 1:3ac 1:3ad 3:0 1:1 1:2 1:3 1:4 1:5 1:6 1:7 1:8 1:9 1:0 1:1 1:2 1:3 1:4 " ++
  "1:5 1:6 1:7 1:8 1:9 1:0 1:1 1:2 1:3 1:4 1:5 1:6 1:7 1:8 1:9 1:0 1:1 1:2 1:3 1:4 1:5 1:6 " ++
  "1:7 1:8 1:9 1:0 1:1 1:2 1:3 1:4 1:5 1:6 1:7 1:8 1:9 1601:5f7 1:5f8 1:5fc 1:5ff 2:618 1:602 " ++
  "1:5fd 1:607 1:61a 1:613 1:614 1:615 1:616 1:603 1:609 1:611 1:605 1:612 1:601 1:604 1:5fa " ++
  "1:5fb 1:5fe 1:600 1:606 1:608 1:60a 1:63e 1:68a 1:671 1:63f 2:5f8 1:5fc 2:617 3:5fd 2:61a " ++
  "1:613 1:614 1:615 1:616 1:603 1:609 1:611 1:605 1:612 2:604 1:5fa 1:5fb 1:5fe 2:606 2:60a " ++
  "7:5fc 5:5fd 2:61a 2:614 2:616 1:603 1:609 2:605 1:612 2:604 3:5fe 2:606 2:60a 2:68a 2:63f " ++
  "2:5f8 1:5fc 2:617 3:5fd 1:607 1:61a 1:613 2:615 1:616 1:603 1:609 1:611 1:605 1:612 2:604 " ++
  "1:5fa 1:5fb 1:5fe 2:606 1:608 1:60a 1:63e 2:671 2:5f7 1:5f8 1:5fc 1:5ff 1:617 1:618 1:602 " ++
  "1:5fd 1:607 1:61a 2:614 1:615 1:616 1:603 1:609 1:611 1:605 1:612 1:601 1:604 1:5fa 1:5fb " ++
  "1:5fe 1:600 1:606 1:608 1:60a 6:5f8 1:5fc 1:5ff 2:618 1:602 1:5fd 1:607 1:61a 2:614 1:615 " ++
  "1:616 1:603 1:609 1:611 1:605 1:612 1:601 1:604 1:5fa 1:5fb 1:5fe 1:600 1:606 1:608 1:60a " ++
  "d35:0 1:1 1:2 1:3 1:4 1:5 1:6 1:7 1:8 1:9 fc07:4e0d 1:4e08 1:4e11 1:200f2 1:4f30 1:4f7e " ++
  "1:4f8b 1:4fd2 1:504a 1:5069 1:50b7 1:509f 1:346e 1:2060a 1:511d 1:5124 1:5134 1:5147 " ++
  "1:204ec 1:3489 1:5137 1:515d 1:2051b 1:5167 1:5174 1:4e9c 1:517c 1:5185 1:291af 1:51c5 " ++
  "1:51d3 1:34af 1:520b 1:5216 1:5242 1:5247 1:34e5 1:5297 1:5299 1:52b4 1:52ca 1:52d5 1:52d6 " ++
  "1:52e7 1:5319 1:5321 1:532a 1:5343 1:534d 1:534f 1:534f 1:534f 1:209fc 1:7040 1:539a " ++
  "1:53af 1:20b33 1:53bb 1:53c1 1:53d6 1:546e 1:5408 1:5418 1:5438 1:5472 1:54c6 1:54e0 " ++
  "1:5523 1:5533 1:5554 1:5554 1:5569 1:557b 1:5583 1:5592 1:56e6 1:55d6 1:56e7 1:5621 1:5644 " ++
  "1:51d7 1:58be 1:579e 1:57c4 1:57dd 1:575b 1:5802 1:5801 1:587c"

/-- Decompositions (part 11). -/
def decompositionEntries11 : String :=
  "1:214b4 1:58c2 1:58c7 1:58d6 1:58ea 1:58f2 1:5932 1:21678 1:216ba 1:59bc 1:59eb 1:59f7 " ++
  "1:59a8 1:5a36 1:36be 1:36cc 1:5ad8 1:5b0e 1:5b0e 1:21998 1:5b93 1:5ba8 1:5bb7 1:5bc3 " ++
  "1:21ae8 1:5bcf 1:5bd6 1:5f23 1:5bf2 1:3751 1:5c30 1:5c3e 1:5c90 1:5c5d 1:21db4 1:5d13 " ++
  "1:21db6 1:5d3e 1:5d3b 1:5d4c 1:5db1 1:5db2 1:37ff 1:5dcd 1:5df8 1:5e0d 1:5e39 1:3832 " ++
  "1:22153 1:384c 1:5e80 1:5e83 1:5e86 1:5e9a 1:2a362 1:5ece 1:22301 1:22301 1:81d1 1:5ef2 " ++
  "1:5ef2 1:3897 1:23288 1:261aa 1:5f32 1:5f3b 1:38b3 1:5f6a 1:5f9d 1:5fa7 1:5fc9 1:6051 " ++
  "1:390a 1:38ec 1:6064 1:226a4 1:6097 1:6118 1:611c 1:611e 1:611c 1:614a 1:615e 1:6182 " ++
  "1:6174 1:617f 1:61ae 1:61c2 1:61c6 1:61e0 1:61eb 1:622d 1:6281 1:62a4 1:6320 1:22adc " ++
  "1:630d 1:62cc 1:6338 1:6353 1:63b4 1:22bc1 1:63f2 1:6395 1:6379 1:39fe 1:6439 1:644e " ++
  "1:646d 1:6447 1:3a3c 1:651f 1:653c 1:22fda 1:65b3 1:66c8 1:6619 1:3ae9 1:6661 1:3ad8 " ++
  "1:3ab4 1:5162 1:5165 1:66d0 1:666c 1:807d 1:43a9 1:66e7 1:66eb 1:66f1 1:672e 1:6723 " ++
  "1:23393 1:3b19 1:67ca 1:6755 1:6822 1:6855 1:2343d 1:685e 1:67ef 1:68e4 1:3b6d 1:6912 " ++
  "1:6973 1:69ba 1:6a78 1:23673 1:6aab 1:3be8 1:6af1 1:23877 1:6b24 1:3c1e 1:6b42 1:6b6f " ++
  "1:6b8a 1:6b8b 1:23a5d 1:21cdb 1:23aca 1:6c1e 1:23c8c 1:6c8f 1:6c9d 1:6c37 1:6ce6 1:6d0e " ++
  "1:6d47 1:6d11 1:6d39 1:6d48 1:6d55 1:23cee 1:6d04 1:6dff 1:6e3e 1:3d03 1:6e9b 1:6e97 " ++
  "1:23ea1 1:6dc9 1:6f3e 1:23f2e 1:23f5e 1:6f96 1:7009 1:6fee 1:6feb 1:3d66 1:701a 1:704d " ++
  "1:7047 1:707d 1:204f5 1:7115 1:24233 1:716c 1:2437b 1:71f8 1:7205 1:7220 1:245d8 1:7250 " ++
  "1:7265 1:24705 1:247e4 1:734a 1:735b 1:3e7c 1:7375 1:3e88 1:3e88 1:7417 1:742c 1:7441 " ++
  "1:7455 1:749a 1:3eeb 1:74f4 1:24c06 1:750e 1:24c62 1:7540 1:2216f 1:75e0 1:24f71 1:24f88 " ++
  "1:25014 1:3fcc 1:3fd8 1:76c4 1:250c3 1:250c2 1:250e9 1:25103 1:76ee 1:76ef 1:76ef 1:771a " ++
  "1:4009 1:775b 1:4016 1:4066 1:253ed 1:781e 1:785c 1:789c 1:40b3 1:255f6 1:7926 1:2566a " ++
  "1:25695 1:795f 1:79bb 1:40ff 1:7a10 1:7a1a 1:7a1f 1:2594c 1:25a77 1:25a77 1:7abe 1:41d2 " ++
  "1:25b7b 1:7b96 1:7b99 1:41f7 1:25c50 1:7ca2 1:4270 1:7cb8 1:7cb3 1:7cd0 1:25f56 1:7d33 " ++
  "1:42d1 1:7d97 1:7dd2 1:7e15 1:4304 1:261f8 1:26217 1:4329 1:262a9 1:7f4a 1:2630e 1:7f65 " ++
  "1:7fca 1:7fd5 1:264aa 1:264f3 1:8030 1:26578 1:8040 1:2332f 1:43a5 1:8082 1:80d3 1:43db " ++
  "1:810e 1:5a85 1:26777 1:26785 1:23363 1:2336c 1:81d1 1:81d4 1:8f6e 1:443b 1:8261 1:825b " ++
  "1:826d 1:5283 1:8281 1:8283 1:828d 1:82b6 1:26b0c 1:82b5 1:82ed 1:8333 1:837d 1:82f3 " ++
  "1:838d 1:83b7 1:8427 1:8323 1:839a 1:839c 1:83ac 1:26c06 1:26d3b 1:26ca5 1:44fb 1:84c1 " ++
  "1:84c3 1:84e6 1:2739a 1:8534 1:26efc 1:452d 1:4531 1:26f81 1:270a2 1:453b 1:8620 1:862c " ++
  "1:8637 1:8639 1:8679 1:8658 1:86de 1:86b2 1:8749 1:86f8 1:873b 1:8756 1:45a7 1:87b1 1:87d1 " ++
  "1:45c9 1:8830 1:8833 1:27637 1:88a7 1:88ae 1:4605 1:88ca 1:348b 1:2787e 1:27936 1:468e " ++
  "1:4697 1:8a70 1:8abd 1:8b5a 1:8c25 1:27c78 1:8c7b 1:8c91 1:8ceb 1:8d47 1:27eff 1:207d4 " ++
  "1:8d9b 1:8d8c 1:8dc0 1:208ae 1:8ea4 1:8f08 1:285a2 1:285bd 1:9064 1:90c1 1:90e1 1:286fe " ++
  "1:90eb 1:9208 1:92a7"

/-- Decompositions (part 12). -/
def decompositionEntries12 : String :=
  "1:92a8 1:924c 1:93c9 1:93e5 1:28bca 1:955b 1:4965 1:9587 1:28d47 1:49b6 1:9693 1:5d82 " ++
  "1:96f3 1:29115 1:291ea 1:4a3e 1:4a46 1:97b0 1:293da 1:4a82 1:29466 1:97db 1:97db 1:97f9 " ++
  "1:29586 1:98b2 1:4b03 1:98f9 1:9977 1:9992 1:99ce 1:4b9e 1:29b00 1:9ae2 1:9c10 1:9ccd " ++
  "1:4c9e 1:4cbd 1:9d37 1:2a09e 1:4cc8 1:2a0d5 1:2a1de 1:2a261 1:9e8b 1:4d26 1:9ec9 1:9ece " ++
  "1:9ed5 1:9edf 1:9ee6 1:9f0b 1:2a5d0"

/-- Lengths of runs and their combining classes (part 1). -/
def classEntries1 : String :=
  "300:15,e6 15:1,e8 1:4,dc 4:1,e8 1:1,d8 1:5,dc 5:2,ca 2:4,dc 4:2,ca 2:b,dc b:5,1 5:4,dc " ++
  "4:8,e6 8:1,f0 1:1,e6 1:3,dc 3:3,e6 3:2,dc 3:3,e6 3:4,dc 4:1,e6 1:1,e8 1:2,dc 2:1,e6 1:1,e9 " ++
  "1:2,ea 2:1,e9 1:2,ea 2:1,e9 1:d,e6 120:5,e6 10e:1,dc 1:4,e6 4:1,dc 1:3,e6 3:1,de 1:1,dc " ++
  "1:6,e6 6:6,dc 6:2,e6 2:1,dc 1:2,e6 2:1,de 1:1,e4 1:1,e6 1:1,a 1:1,b 1:1,c 1:1,d 1:1,e 1:1,f " ++
  "1:1,10 1:1,11 1:1,12 1:2,13 2:1,14 1:1,15 1:1,16 2:1,17 2:1,18 1:1,19 2:1,e6 1:1,dc 2:1,12 " ++
  "49:8,e6 8:1,1e 1:1,1f 1:1,20 31:1,1b 1:1,1c 1:1,1d 1:1,1e 1:1,1f 1:1,20 1:1,21 1:1,22 " ++
  "1:2,e6 2:2,dc 2:5,e6 5:1,dc 1:2,e6 2:1,dc 11:1,23 66:7,e6 9:4,e6 4:1,dc 1:1,e6 3:2,e6 " ++
  "3:1,dc 1:2,e6 2:1,dc 24:1,24 1f:1,e6 1:1,dc 1:2,e6 2:1,dc 1:2,e6 2:3,dc 3:1,e6 1:2,dc " ++
  "2:1,e6 1:1,dc 1:3,e6 3:1,dc 1:1,e6 1:1,dc 1:1,e6 1:1,dc 1:1,e6 1:1,dc 1:2,e6 a2:7,e6 7:1,dc " ++
  "1:1,e6 a:1,dc 19:4,e6 5:9,e6 a:3,e6 4:5,e6 30:3,dc 3f:1,e6 1:3,dc 3:4,e6 2e:5,e6 5:5,dc " ++
  "5:e,e6 f:1,dc 1:2,e6 2:1,dc 1:2,e6 2:1,dc 1:3,e6 3:3,dc 3:1,1b 1:1,1c 1:1,1d 1:3,e6 3:1,dc " ++
  "1:2,e6 2:2,dc 2:5,e6 41:1,7 11:1,9 4:1,e6 1:1,dc 1:2,e6 69:1,7 11:1,9 31:1,e6 3e:1,7 11:1,9 " ++
  "6f:1,7 11:1,9 6f:1,7 11:1,9 80:1,9 6f:1,7 11:1,9 8:1,54 1:1,5b 66:1,7 11:1,9 6e:2,9 12:1,9 " ++
  "7d:1,9 6e:2,67 2:1,9 e:4,6b 70:2,76 2:1,9 e:4,7a 50:2,dc 1d:1,dc 2:1,dc 2:1,d8 38:1,81 " ++
  "1:1,82 2:1,84 6:4,82 6:1,82 2:2,e6 2:1,9 2:2,e6 40:1,dc 71:1,7 2:2,9 54:1,dc 2d0:3,e6 " ++
  "3b7:2,9 20:1,9 9e:1,9 b:1,e6 cc:1,e4 90:1,de 1:1,e6 1:1,dc dc:1,e6 1:1,dc 48:1,9 15:8,e6 " ++
  "a:1,dc 31:5,e6 5:6,dc 6:2,e6 2:1,dc 2:2,dc 2:2,e6 2:2,dc 2:5,e6 5:1,dc 1:4,e6 69:1,7 10:1,9 " ++
  "27:1,e6 1:1,dc 1:7,e6 3d:2,9 3c:1,7 c:2,9 45:1,7 99:3,e6 4:1,1 1:5,dc 5:2,e6 2:4,dc 4:1,e6 " ++
  "2:7,1 b:1,dc 7:1,e6 4:2,e6 c8:2,e6 2:1,dc 1:7,e6 7:1,dc 1:2,e6 2:1,ea 1:1,d6 1:1,dc 1:1,ca " ++
  "1:25,e6 25:1,e8 1:2,e4 2:1,dc 1:1,da 1:1,e6 1:1,e9 1:1,dc 1:1,e6 1:1,dc 2d1:2,e6 2:2,1 " ++
  "2:4,e6 4:3,1 3:2,e6 6:1,e6 4:2,1 2:1,e6 1:1,dc 1:1,e6 1:2,1 2:4,dc 4:1,e6 bff:3,e6 90:1,9 " ++
  "61:20,e6 24a:1,da 1:1,e4 1:1,e8 1:1,de 1:2,e0 6b:2,8 75d6:1,e6 5:a,e6 2a:2,e6 52:2,e6 " ++
  "116:1,9 26:1,9 98:1,9 1c:12,e6 4b:3,dc 28:1,9 60:1,7 d:1,9 f0:1,e6 2:2,e6 2:1,dc 3:2,e6 " ++
  "7:2,e6 3:1,e6 35:1,9 f7:1,9 4f31:1,1a 302:7,e6 7:7,dc 7:2,e6 3cf:1,dc e3:1,dc 96:5,e6 " ++
  "697:1,dc 2:1,e6 29:1,e6 1:1,1 1:1,dc 5:1,9 a6:1,e6 1:1,dc 23e:4,e6 187:2,e6 9b:2,dc 2:3,e6 " ++
  "3:1,dc 1:1,e6 1:4,dc 35:1,e6 1:1,dc 1:1,e6 1:1,dc c1:1,9 2a:1,9 f:1,9 3a:1,9 1:1,7 46:3,e6 " ++
  "33:2,9 40:1,7 4d:1,9 a:1,7 6b:1,9 1:1,7 b3:1,7 1:1,9 51:2,7 12:1,9 19:7,e6 a:5,e6 d2:1,9 " ++
  "4:1,7 18:1,e6 64:1,9 1:1,7 fc:1,9 1:1,7 7f:1,9 77:1,9 1:1,7 74:1,9 10e:1,9 1:1,7 103:2,9 " ++
  "6:1,7 9d:1,9 54:1,9 13:1,9 52:1,9 1a6:1,9 103:1,7 2:2,9 53:1,9 4d59:5,1 40:7,e6 4c0:2,6 " ++
  "4cae:1,1 14c7:2,d8 2:3,1 6:1,e2 1:5,d8 d:8,dc a:5,e6 5:2,dc 20:4,e6 98:3,e6 dbe:7,e6 " ++
  "8:11,e6 13:7,e6 8:2,e6 3:5,e6 10a:7,e6 17e:1,e6 3e:4,e6 5e4:7,dc 74:6,e6 6:1,7"

/-- Pairs of characters that compose (part 1). -/
def pairEntries1 : String :=
  "0:41,300 1:41,301 1:41,302 1:41,303 1:41,308 1:41,30a 2:43,327 1:45,300 1:45,301 1:45,302 " ++
  "1:45,308 1:49,300 1:49,301 1:49,302 1:49,308 2:4e,303 1:4f,300 1:4f,301 1:4f,302 1:4f,303 " ++
  "1:4f,308 3:55,300 1:55,301 1:55,302 1:55,308 1:59,301 3:61,300 1:61,301 1:61,302 1:61,303 " ++
  "1:61,308 1:61,30a 2:63,327 1:65,300 1:65,301 1:65,302 1:65,308 1:69,300 1:69,301 1:69,302 " ++
  "1:69,308 2:6e,303 1:6f,300 1:6f,301 1:6f,302 1:6f,303 1:6f,308 3:75,300 1:75,301 1:75,302 " ++
  "1:75,308 1:79,301 2:79,308 1:41,304 1:61,304 1:41,306 1:61,306 1:41,328 1:61,328 1:43,301 " ++
  "1:63,301 1:43,302 1:63,302 1:43,307 1:63,307 1:43,30c 1:63,30c 1:44,30c 1:64,30c 3:45,304 " ++
  "1:65,304 1:45,306 1:65,306 1:45,307 1:65,307 1:45,328 1:65,328 1:45,30c 1:65,30c 1:47,302 " ++
  "1:67,302 1:47,306 1:67,306 1:47,307 1:67,307 1:47,327 1:67,327 1:48,302 1:68,302 3:49,303 " ++
  "1:69,303 1:49,304 1:69,304 1:49,306 1:69,306 1:49,328 1:69,328 1:49,307 4:4a,302 1:6a,302 " ++
  "1:4b,327 1:6b,327 2:4c,301 1:6c,301 1:4c,327 1:6c,327 1:4c,30c 1:6c,30c 5:4e,301 1:6e,301 " ++
  "1:4e,327 1:6e,327 1:4e,30c 1:6e,30c 4:4f,304 1:6f,304 1:4f,306 1:6f,306 1:4f,30b 1:6f,30b " ++
  "3:52,301 1:72,301 1:52,327 1:72,327 1:52,30c 1:72,30c 1:53,301 1:73,301 1:53,302 1:73,302 " ++
  "1:53,327 1:73,327 1:53,30c 1:73,30c 1:54,327 1:74,327 1:54,30c 1:74,30c 3:55,303 1:75,303 " ++
  "1:55,304 1:75,304 1:55,306 1:75,306 1:55,30a 1:75,30a 1:55,30b 1:75,30b 1:55,328 1:75,328 " ++
  "1:57,302 1:77,302 1:59,302 1:79,302 1:59,308 1:5a,301 1:7a,301 1:5a,307 1:7a,307 1:5a,30c " ++
  "1:7a,30c 22:4f,31b 1:6f,31b e:55,31b 1:75,31b 1d:41,30c 1:61,30c 1:49,30c 1:69,30c 1:4f,30c " ++
  "1:6f,30c 1:55,30c 1:75,30c 1:dc,304 1:fc,304 1:dc,301 1:fc,301 1:dc,30c 1:fc,30c 1:dc,300 " ++
  "1:fc,300 2:c4,304 1:e4,304 1:226,304 1:227,304 1:c6,304 1:e6,304 3:47,30c 1:67,30c 1:4b,30c " ++
  "1:6b,30c 1:4f,328 1:6f,328 1:1ea,304 1:1eb,304 1:1b7,30c 1:292,30c 1:6a,30c 4:47,301 " ++
  "1:67,301 3:4e,300 1:6e,300 1:c5,301 1:e5,301 1:c6,301 1:e6,301 1:d8,301 1:f8,301 1:41,30f " ++
  "1:61,30f 1:41,311 1:61,311 1:45,30f 1:65,30f 1:45,311 1:65,311 1:49,30f 1:69,30f 1:49,311 " ++
  "1:69,311 1:4f,30f 1:6f,30f 1:4f,311 1:6f,311 1:52,30f 1:72,30f 1:52,311 1:72,311 1:55,30f " ++
  "1:75,30f 1:55,311 1:75,311 1:53,326 1:73,326 1:54,326 1:74,326 3:48,30c 1:68,30c 7:41,307 " ++
  "1:61,307 1:45,327 1:65,327 1:d6,304 1:f6,304 1:d5,304 1:f5,304 1:4f,307 1:6f,307 1:22e,304 " ++
  "1:22f,304 1:59,304 1:79,304 152:a8,301 1:391,301 2:395,301 1:397,301 1:399,301 2:39f,301 " ++
  "2:3a5,301 1:3a9,301 1:3ca,301 1a:399,308 1:3a5,308 1:3b1,301 1:3b5,301 1:3b7,301 1:3b9,301 " ++
  "1:3cb,301 1a:3b9,308 1:3c5,308 1:3bf,301 1:3c5,301 1:3c9,301 5:3d2,301 1:3d2,308 2c:415,300 " ++
  "1:415,308 2:413,301 4:406,308 5:41a,301 1:418,300 1:423,306 b:418,306 20:438,306 17:435,300 " ++
  "1:435,308 2:433,301 4:456,308 5:43a,301 1:438,300 1:443,306 18:474,30f 1:475,30f 4a:416,306 " ++
  "1:436,306 e:410,306 1:430,306 1:410,308 1:430,308 3:415,306 1:435,306 3:4d8,308 1:4d9,308 " ++
  "1:416,308 1:436,308 1:417,308 1:437,308 3:418,304 1:438,304 1:418,308 1:438,308 1:41e,308 " ++
  "1:43e,308 3:4e8,308 1:4e9,308 1:42d,308 1:44d,308 1:423,304 1:443,304 1:423,308 1:443,308 " ++
  "1:423,30b 1:443,30b 1:427,308 1:447,308 3:42b,308 1:44b,308 129:627,653 1:627,654 1:648,654 " ++
  "1:627,655 1:64a,654 9a:6d5,654 2:6c1,654 11:6d2,654 256:928,93c 8:930,93c 3:933,93c " ++
  "97:9c7,9be 1:9c7,9d7 17c:b47,b56 3:b47,b3e 1:b47,b57 48:b92,bd7 36:bc6,bbe 1:bc7,bbe " ++
  "1:bc6,bd7 7c:c46,c56 78:cbf,cd5 7:cc6,cd5 1:cc6,cd6 2:cc6,cc2 1:cca,cd5 7f:d46,d3e " ++
  "1:d47,d3e 1:d46,d57 8e:dd9,dca 2:dd9,dcf 1:ddc,dca 1:dd9,ddf 248:1025,102e ae0:1b05,1b35 " ++
  "2:1b07,1b35 2:1b09,1b35 2:1b0b,1b35 2:1b0d,1b35 4:1b11,1b35 29:1b3a,1b35 2:1b3c,1b35 " ++
  "3:1b3e,1b35 1:1b3f,1b35 2:1b42,1b35 2bd:41,325 1:61,325 1:42,307 1:62,307 1:42,323 1:62,323 " ++
  "1:42,331 1:62,331 1:c7,301 1:e7,301 1:44,307 1:64,307 1:44,323 1:64,323 1:44,331 1:64,331 " ++
  "1:44,327 1:64,327 1:44,32d 1:64,32d 1:112,300 1:113,300 1:112,301 1:113,301 1:45,32d " ++
  "1:65,32d 1:45,330 1:65,330"

/-- Pairs of characters that compose (part 2). -/
def pairEntries2 : String :=
  "1:228,306 1:229,306 1:46,307 1:66,307 1:47,304 1:67,304 1:48,307 1:68,307 1:48,323 1:68,323 " ++
  "1:48,308 1:68,308 1:48,327 1:68,327 1:48,32e 1:68,32e 1:49,330 1:69,330 1:cf,301 1:ef,301 " ++
  "1:4b,301 1:6b,301 1:4b,323 1:6b,323 1:4b,331 1:6b,331 1:4c,323 1:6c,323 1:1e36,304 " ++
  "1:1e37,304 1:4c,331 1:6c,331 1:4c,32d 1:6c,32d 1:4d,301 1:6d,301 1:4d,307 1:6d,307 1:4d,323 " ++
  "1:6d,323 1:4e,307 1:6e,307 1:4e,323 1:6e,323 1:4e,331 1:6e,331 1:4e,32d 1:6e,32d 1:d5,301 " ++
  "1:f5,301 1:d5,308 1:f5,308 1:14c,300 1:14d,300 1:14c,301 1:14d,301 1:50,301 1:70,301 " ++
  "1:50,307 1:70,307 1:52,307 1:72,307 1:52,323 1:72,323 1:1e5a,304 1:1e5b,304 1:52,331 " ++
  "1:72,331 1:53,307 1:73,307 1:53,323 1:73,323 1:15a,307 1:15b,307 1:160,307 1:161,307 " ++
  "1:1e62,307 1:1e63,307 1:54,307 1:74,307 1:54,323 1:74,323 1:54,331 1:74,331 1:54,32d " ++
  "1:74,32d 1:55,324 1:75,324 1:55,330 1:75,330 1:55,32d 1:75,32d 1:168,301 1:169,301 " ++
  "1:16a,308 1:16b,308 1:56,303 1:76,303 1:56,323 1:76,323 1:57,300 1:77,300 1:57,301 1:77,301 " ++
  "1:57,308 1:77,308 1:57,307 1:77,307 1:57,323 1:77,323 1:58,307 1:78,307 1:58,308 1:78,308 " ++
  "1:59,307 1:79,307 1:5a,302 1:7a,302 1:5a,323 1:7a,323 1:5a,331 1:7a,331 1:68,331 1:74,308 " ++
  "1:77,30a 1:79,30a 2:17f,307 5:41,323 1:61,323 1:41,309 1:61,309 1:c2,301 1:e2,301 1:c2,300 " ++
  "1:e2,300 1:c2,309 1:e2,309 1:c2,303 1:e2,303 1:1ea0,302 1:1ea1,302 1:102,301 1:103,301 " ++
  "1:102,300 1:103,300 1:102,309 1:103,309 1:102,303 1:103,303 1:1ea0,306 1:1ea1,306 1:45,323 " ++
  "1:65,323 1:45,309 1:65,309 1:45,303 1:65,303 1:ca,301 1:ea,301 1:ca,300 1:ea,300 1:ca,309 " ++
  "1:ea,309 1:ca,303 1:ea,303 1:1eb8,302 1:1eb9,302 1:49,309 1:69,309 1:49,323 1:69,323 " ++
  "1:4f,323 1:6f,323 1:4f,309 1:6f,309 1:d4,301 1:f4,301 1:d4,300 1:f4,300 1:d4,309 1:f4,309 " ++
  "1:d4,303 1:f4,303 1:1ecc,302 1:1ecd,302 1:1a0,301 1:1a1,301 1:1a0,300 1:1a1,300 1:1a0,309 " ++
  "1:1a1,309 1:1a0,303 1:1a1,303 1:1a0,323 1:1a1,323 1:55,323 1:75,323 1:55,309 1:75,309 " ++
  "1:1af,301 1:1b0,301 1:1af,300 1:1b0,300 1:1af,309 1:1b0,309 1:1af,303 1:1b0,303 1:1af,323 " ++
  "1:1b0,323 1:59,300 1:79,300 1:59,323 1:79,323 1:59,309 1:79,309 1:59,303 1:79,303 7:3b1,313 " ++
  "1:3b1,314 1:1f00,300 1:1f01,300 1:1f00,301 1:1f01,301 1:1f00,342 1:1f01,342 1:391,313 " ++
  "1:391,314 1:1f08,300 1:1f09,300 1:1f08,301 1:1f09,301 1:1f08,342 1:1f09,342 1:3b5,313 " ++
  "1:3b5,314 1:1f10,300 1:1f11,300 1:1f10,301 1:1f11,301 3:395,313 1:395,314 1:1f18,300 " ++
  "1:1f19,300 1:1f18,301 1:1f19,301 3:3b7,313 1:3b7,314 1:1f20,300 1:1f21,300 1:1f20,301 " ++
  "1:1f21,301 1:1f20,342 1:1f21,342 1:397,313 1:397,314 1:1f28,300 1:1f29,300 1:1f28,301 " ++
  "1:1f29,301 1:1f28,342 1:1f29,342 1:3b9,313 1:3b9,314 1:1f30,300 1:1f31,300 1:1f30,301 " ++
  "1:1f31,301 1:1f30,342 1:1f31,342 1:399,313 1:399,314 1:1f38,300 1:1f39,300 1:1f38,301 " ++
  "1:1f39,301 1:1f38,342 1:1f39,342 1:3bf,313 1:3bf,314 1:1f40,300 1:1f41,300 1:1f40,301 " ++
  "1:1f41,301 3:39f,313 1:39f,314 1:1f48,300 1:1f49,300 1:1f48,301 1:1f49,301 3:3c5,313 " ++
  "1:3c5,314 1:1f50,300 1:1f51,300 1:1f50,301 1:1f51,301 1:1f50,342 1:1f51,342 2:3a5,314 " ++
  "2:1f59,300 2:1f59,301 2:1f59,342 1:3c9,313 1:3c9,314 1:1f60,300 1:1f61,300 1:1f60,301 " ++
  "1:1f61,301 1:1f60,342 1:1f61,342 1:3a9,313 1:3a9,314 1:1f68,300 1:1f69,300 1:1f68,301 " ++
  "1:1f69,301 1:1f68,342 1:1f69,342 1:3b1,300 2:3b5,300 2:3b7,300 2:3b9,300 2:3bf,300 " ++
  "2:3c5,300 2:3c9,300 4:1f00,345 1:1f01,345 1:1f02,345 1:1f03,345 1:1f04,345 1:1f05,345 " ++
  "1:1f06,345 1:1f07,345 1:1f08,345 1:1f09,345 1:1f0a,345 1:1f0b,345 1:1f0c,345 1:1f0d,345 " ++
  "1:1f0e,345 1:1f0f,345 1:1f20,345 1:1f21,345 1:1f22,345 1:1f23,345 1:1f24,345 1:1f25,345 " ++
  "1:1f26,345 1:1f27,345 1:1f28,345 1:1f29,345 1:1f2a,345 1:1f2b,345 1:1f2c,345 1:1f2d,345 " ++
  "1:1f2e,345 1:1f2f,345 1:1f60,345 1:1f61,345 1:1f62,345 1:1f63,345 1:1f64,345 1:1f65,345 " ++
  "1:1f66,345 1:1f67,345 1:1f68,345 1:1f69,345 1:1f6a,345 1:1f6b,345 1:1f6c,345 1:1f6d,345 " ++
  "1:1f6e,345 1:1f6f,345 1:3b1,306 1:3b1,304 1:1f70,345 1:3b1,345 1:3ac,345 2:3b1,342 " ++
  "1:1fb6,345 1:391,306 1:391,304 1:391,300 2:391,345 5:a8,342 1:1f74,345 1:3b7,345 1:3ae,345 " ++
  "2:3b7,342 1:1fc6,345 1:395,300 2:397,300 2:397,345 1:1fbf,300 1:1fbf,301 1:1fbf,342 " ++
  "1:3b9,306 1:3b9,304 1:3ca,300 4:3b9,342 1:3ca,342"

/-- Pairs of characters that compose (part 3). -/
def pairEntries3 : String :=
  "1:399,306 1:399,304 1:399,300 3:1ffe,300 1:1ffe,301 1:1ffe,342 1:3c5,306 1:3c5,304 " ++
  "1:3cb,300 2:3c1,313 1:3c1,314 1:3c5,342 1:3cb,342 1:3a5,306 1:3a5,304 1:3a5,300 2:3a1,314 " ++
  "1:a8,300 5:1f7c,345 1:3c9,345 1:3ce,345 2:3c9,342 1:1ff6,345 1:39f,300 2:3a9,300 2:3a9,345 " ++
  "19e:2190,338 1:2192,338 13:2194,338 1f:21d0,338 1:21d4,338 1:21d2,338 35:2203,338 " ++
  "5:2208,338 3:220b,338 18:2223,338 2:2225,338 1b:223c,338 3:2243,338 3:2245,338 2:2248,338 " ++
  "17:3d,338 2:2261,338 b:224d,338 1:3c,338 1:3e,338 1:2264,338 1:2265,338 3:2272,338 " ++
  "1:2273,338 3:2276,338 1:2277,338 7:227a,338 1:227b,338 3:2282,338 1:2283,338 3:2286,338 " ++
  "1:2287,338 23:22a2,338 1:22a8,338 1:22a9,338 1:22ab,338 31:227c,338 1:227d,338 1:2291,338 " ++
  "1:2292,338 7:22b2,338 1:22b3,338 1:22b4,338 1:22b5,338 d5f:304b,3099 2:304d,3099 " ++
  "2:304f,3099 2:3051,3099 2:3053,3099 2:3055,3099 2:3057,3099 2:3059,3099 2:305b,3099 " ++
  "2:305d,3099 2:305f,3099 2:3061,3099 3:3064,3099 2:3066,3099 2:3068,3099 7:306f,3099 " ++
  "1:306f,309a 2:3072,3099 1:3072,309a 2:3075,3099 1:3075,309a 2:3078,3099 1:3078,309a " ++
  "2:307b,3099 1:307b,309a 17:3046,3099 a:309d,3099 e:30ab,3099 2:30ad,3099 2:30af,3099 " ++
  "2:30b1,3099 2:30b3,3099 2:30b5,3099 2:30b7,3099 2:30b9,3099 2:30bb,3099 2:30bd,3099 " ++
  "2:30bf,3099 2:30c1,3099 3:30c4,3099 2:30c6,3099 2:30c8,3099 7:30cf,3099 1:30cf,309a " ++
  "2:30d2,3099 1:30d2,309a 2:30d5,3099 1:30d5,309a 2:30d8,3099 1:30d8,309a 2:30db,3099 " ++
  "1:30db,309a 17:30a6,3099 3:30ef,3099 1:30f0,3099 1:30f1,3099 1:30f2,3099 4:30fd,3099 " ++
  "df9c:11099,110ba 2:1109b,110ba f:110a5,110ba 83:11131,11127 1:11132,11127 21c:11347,1133e " ++
  "1:11347,11357 16f:114b9,114ba 1:114b9,114b0 2:114b9,114bd fc:115b8,115af 1:115b9,115af " ++
  "37d:11935,11930"

/-- Reads entries: `last` is the character of the entry before, `gap` the gap being
read, `inGap` tells that it is still being read, and `numbers` holds the numbers read
so far in reverse. -/
def readEntries : List Char → (last gap : Nat) → (inGap : Bool) → (numbers : List Nat) →
    List (Nat × List Nat)
  | [], last, gap, _, numbers => [(last + gap, numbers.reverse)]
  | c :: cs, last, gap, inGap, numbers =>
    if c = ' ' then (last + gap, numbers.reverse) :: readEntries cs (last + gap) 0 true []
    else if c = ':' then readEntries cs last gap false [0]
    else if c = ',' then readEntries cs last gap false (0 :: numbers)
    else if inGap then readEntries cs last (16 * gap + Ranges.hexDigit c) true numbers
    else match numbers with
      | [] => readEntries cs last gap false [Ranges.hexDigit c]
      | n :: ns => readEntries cs last gap false ((16 * n + Ranges.hexDigit c) :: ns)

/-- The entries of a table in parts. -/
def entriesOf (parts : List String) : List (Nat × List Nat) :=
  readEntries (" ".intercalate parts).toList 0 0 true []

/-- The character from which the parts of decompositions are counted. -/
def firstPart : Nat := 0x30

/-- The character from which composed characters are counted. -/
def firstComposed : Nat := 0xC0

/-- The decompositions. -/
def decompositions : List (Nat × List Nat) :=
  (entriesOf [decompositionEntries1, decompositionEntries2, decompositionEntries3,
    decompositionEntries4, decompositionEntries5, decompositionEntries6,
    decompositionEntries7, decompositionEntries8, decompositionEntries9,
    decompositionEntries10, decompositionEntries11, decompositionEntries12]).map
    fun (n, parts) => (n, parts.map (firstPart + ·))

/-- The runs of combining classes. -/
def classRuns : List (Nat × List Nat) :=
  entriesOf [classEntries1]

/-- The pairs that compose. -/
def pairs : List (Nat × List Nat) :=
  (entriesOf [pairEntries1, pairEntries2, pairEntries3]).map fun (n, pair) => (firstComposed + n, pair)

end SnippetProfiler.Text
