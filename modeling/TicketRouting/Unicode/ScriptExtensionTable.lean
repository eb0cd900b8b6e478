/-!
Script extensions as data: what the text of a script uses besides the script's own code points
(second column), and which of these it does not use alone or at all (third column).
-/
namespace TicketRouting.Unicode

def scriptExtensionTable : List (String × String × String) := [
  ("adlam", "61f 640 204f 2e41",
    ""),
  ("arabic", "60c 61b 61f 640 64b-655 670 204f 2e41 fd3e-fd3f 102e0-102fb",
    ""),
  ("armenian", "308",
    ""),
  ("avestan", "b7 2e30-2e31",
    ""),
  ("bengali", "2bc 951-952 964-965 1cd0 1cd2 1cd5-1cd6 1cd8-1cea/9 1ced 1cf2 1cf5-1cf7 a8f1",
    ""),
  ("bopomofo", "2c7 2c9-2cb 2d9 3001-3003 3008-3011 3013-301f 302a-302d 3030 3037 30fb
    fe45-fe46 ff61-ff65",
    ""),
  ("buginese", "a9cf",
    ""),
  ("buhid", "1735-1736",
    ""),
  ("carian", "b7 205a 205d 2e31",
    ""),
  ("caucasianalbanian", "304-35e/2d",
    ""),
  ("chakma", "9e6-9ef 1040-1049",
    ""),
  ("cherokee", "300-302 304 30b-30c 323-324 330-331",
    ""),
  ("common", "",
    "b7 2bc 2c7 2c9-2cb 2cd 2d7 2d9 374 60c 61b 61f 640 964-965 10fb 16eb-16ed 1735-1736
    1802-1803 1805 1cd3 1ce1 1ce9-1cec 1cee-1cf3 1cf5-1cf7 1cfa 202f 204f 205a 205d 2e17
    2e30-2e31 2e3c 2e41 2e43 2ff0-2fff 3001-3003 3006 3008-3011 3013-301f 3030-3035 3037
    303c-303f 309b-309c 30a0 30fb-30fc 3190-319f 31c0-31e5 31ef 3220-3247 3280-32b0 32c0-32cb
    32ff 3358-3370 337b-337f 33e0-33fe a700-a707 a830-a839 a92e a9cf fd3e-fd3f fe45-fe46
    ff61-ff65 ff70 ff9e-ff9f 10100-10102 10107-10133 10137-1013f 102e1-102fb 1bca0-1bca3
    1d360-1d371 1f250-1f251"),
  ("coptic", "b7 300 304-305 307 374-375 2e17 102e0-102fb",
    ""),
  ("cypriot", "10100-10102 10107-10133 10137-1013f",
    ""),
  ("cyprominoan", "10100-10101",
    ""),
  ("cyrillic", "2bc 300-302 304-308/2 30b 311 485-486 1df8 2e43",
    ""),
  ("devanagari", "2bc 951-952 964-965 1cd0-1cf6 1cf8-1cf9 20f0 a830-a839",
    ""),
  ("dogra", "964-96f a830-a839",
    ""),
  ("duployan", "b7 307-308 30a 323-324 2e3c 1bca0-1bca3",
    ""),
  ("elbasan", "b7 305",
    ""),
  ("ethiopic", "30e",
    ""),
  ("garay", "60c 61b 61f",
    ""),
  ("georgian", "b7 589 10fb 205a 2e31",
    ""),
  ("glagolitic", "b7 303 305 484 487 589 10fb 205a 2e43 a66f",
    ""),
  ("gothic", "b7 304-305 308 331",
    ""),
  ("grantha", "951-952 964-965 be6-bf3 1cd0 1cd2-1cd3 1cf2-1cf4 1cf8-1cf9 20f0 1133b
    11fd0-11fd1 11fd3",
    ""),
  ("greek", "b7 300-301 304-308/2 313 342 345 374 1dc0-1dc1 205d",
    ""),
  ("gujarati", "951-952 964-965 a830-a839",
    ""),
  ("gunjalagondi", "b7 964-965",
    ""),
  ("gurmukhi", "951-952 964-965 a830-a839",
    ""),
  ("gurungkhema", "965",
    ""),
  ("han", "b7 2ff0-2fff 3001-3003 3006 3008-3011 3013-301f 302a-302d 3030 3037 303c-303f 30fb
    3190-319f 31c0-31e5 31ef 3220-3247 3280-32b0 32c0-32cb 32ff 3358-3370 337b-337f 33e0-33fe
    a700-a707 fe45-fe46 ff61-ff65 1d360-1d371 1f250-1f251",
    ""),
  ("hangul", "3001-3003 3008-3011 3013-301f 3030 3037 30fb fe45-fe46 ff61-ff65",
    ""),
  ("hanifirohingya", "60c 61b 61f 640 6d4",
    ""),
  ("hanunoo", "1735-1736",
    ""),
  ("hebrew", "307-308",
    ""),
  ("hiragana", "3001-3003 3008-3011 3013-301f 3030-3035 3037 303c-303d 3099-309c 30a0
    30fb-30fc fe45-fe46 ff61-ff65 ff70 ff9e-ff9f",
    ""),
  ("inherited", "",
    "300-30e 310-311 313 320 323-325 32d-32e 330-331 342 345 358 35e 363-36f 485-486 64b-655 670
    951-952 1cd0-1cd2 1cd4-1ce0 1ce2-1ce8 1ced 1cf4 1cf8-1cf9 1dc0-1dc1 1df8 1dfa 20f0
    302a-302d 3099-309a 102e0 1133b"),
  ("javanese", "a9cf",
    ""),
  ("kaithi", "966-96f 2e31 a830-a839",
    ""),
  ("kannada", "951-952 964-965 1cd0 1cd2-1cd3 1cda 1cf2 1cf4 a830-a835",
    ""),
  ("katakana", "305 323 3001-3003 3008-3011 3013-301f 3030-3035 3037 303c-303d 3099-309c 30a0
    30fb-30fc fe45-fe46 ff61-ff65 ff70 ff9e-ff9f",
    ""),
  ("kayahli", "a92e",
    ""),
  ("khojki", "ae6-aef a830-a839",
    ""),
  ("khudawadi", "964-965 a830-a839",
    ""),
  ("latin", "b7 2bc 2c7 2c9-2cb 2cd 2d7 2d9 300-30e 310-311 313 320 323-325 32d-32e 330-331
    358 35e 363-36f 485-486 951-952 10fb 1df8 202f 20f0 2e17 a700-a707 a92e",
    ""),
  ("limbu", "965",
    ""),
  ("lineara", "10107-10133",
    ""),
  ("linearb", "10100-10102 10107-10133 10137-1013f",
    ""),
  ("lisu", "2bc 2cd 300a-300b",
    ""),
  ("lycian", "205a",
    ""),
  ("lydian", "b7 2e31",
    ""),
  ("mahajani", "b7 964-96f a830-a839",
    ""),
  ("malayalam", "951-952 964-965 1cda 1cf2 a830-a832",
    ""),
  ("mandaic", "640",
    ""),
  ("manichaean", "640",
    ""),
  ("masaramgondi", "964-965",
    ""),
  ("meroitichieroglyphs", "205d",
    ""),
  ("modi", "a830-a839",
    ""),
  ("mongolian", "1802-1803 1805 202f 3001-3002 3008-300b",
    ""),
  ("multani", "a66-a6f",
    ""),
  ("myanmar", "a92e",
    ""),
  ("nandinagari", "964-965 ce6-cef 1ce9 1cf2 1cfa a830-a835",
    ""),
  ("nko", "60c 61b 61f fd3e-fd3f",
    ""),
  ("olonal", "964-965",
    ""),
  ("oldhungarian", "205a 205d 2e31 2e41",
    ""),
  ("oldpermic", "b7 300 306-308 313 483",
    ""),
  ("oldturkic", "205a 2e30",
    ""),
  ("olduyghur", "640 10af2",
    ""),
  ("oriya", "951-952 964-965 1cda 1cf2",
    ""),
  ("osage", "301 304 30b 358",
    ""),
  ("phagspa", "1802-1803 1805 202f 3002",
    ""),
  ("psalterpahlavi", "640",
    ""),
  ("runic", "16eb-16ed",
    ""),
  ("samaritan", "2e31",
    ""),
  ("sharada", "951 1cd7 1cd9 1cdc-1cdd 1ce0 a830-a835 a838",
    ""),
  ("shavian", "b7",
    ""),
  ("sinhala", "964-965 1cf2",
    ""),
  ("sogdian", "640",
    ""),
  ("sunuwar", "300-301 303 30d 310 32d 331",
    ""),
  ("sylotinagri", "964-965 9e6-9ef",
    ""),
  ("syriac", "303-304 307-308 30a 320 323-325 32d-32e 330 60c 61b-61c 61f 640 64b-655 670
    1df8 1dfa",
    ""),
  ("tagalog", "1735-1736",
    ""),
  ("tagbanwa", "1735-1736",
    ""),
  ("taile", "300-301 307-308 30c 1040-1049",
    ""),
  ("takri", "964-965 a830-a839",
    ""),
  ("tamil", "951-952 964-965 1cda a8f3 11301 11303 1133b-1133c",
    ""),
  ("tangut", "2ff0-2fff 31ef",
    ""),
  ("telugu", "951-952 964-965 1cda 1cf2",
    ""),
  ("thaana", "60c 61b-61c 61f 660-669 fdf2 fdfd",
    ""),
  ("thai", "2bc 2d7 303 331",
    ""),
  ("tibetan", "3008-300b",
    ""),
  ("tifinagh", "302 304 307 309",
    ""),
  ("tirhuta", "951-952 964-965 1cf2 a830-a839",
    ""),
  ("todhri", "301-307/3 311 313 35e",
    ""),
  ("toto", "2bc",
    ""),
  ("tulutigalari", "ce6-cef 1cf2 1cf4 a830-a835 a8f1",
    ""),
  ("yezidi", "60c 61b 61f 660-669",
    ""),
  ("yi", "3001-3002 3008-3011 3014-301b 30fb ff61-ff65",
    "")]

end TicketRouting.Unicode
