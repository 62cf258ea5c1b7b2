import LiveMarkdown.Text.Hex

/-!
# Tables for the compatibility form

Three tables of the character database: full compatibility decompositions, combining classes and
canonical pairs. The syllables of Hangul are in none of them, being composed by arithmetic.
-/

namespace LiveMarkdown.Text

/-- Entries `gap count value ...`: the character `gap` steps after the one before decomposes into
`count` values. -/
def decompositionTable : String :=
  "a0 1 20 8 2 20 308 2 1 61 5 2 20 304 3 1 32 1 1 33 1 2 20 301 1 1 3bc 3 2 20 327 1 1 31 1 1
    6f 2 3 31 2044 34 1 3 31 2044 32 1 3 33 2044 34 2 2 41 300 1 2 41 301 1 2 41 302 1 2 41 303
    1 2 41 308 1 2 41 30a 2 2 43 327 1 2 45 300 1 2 45 301 1 2 45 302 1 2 45 308 1 2 49 300 1 2
    49 301 1 2 49 302 1 2 49 308 2 2 4e 303 1 2 4f 300 1 2 4f 301 1 2 4f 302 1 2 4f 303 1 2 4f
    308 3 2 55 300 1 2 55 301 1 2 55 302 1 2 55 308 1 2 59 301 3 2 61 300 1 2 61 301 1 2 61 302
    1 2 61 303 1 2 61 308 1 2 61 30a 2 2 63 327 1 2 65 300 1 2 65 301 1 2 65 302 1 2 65 308 1 2
    69 300 1 2 69 301 1 2 69 302 1 2 69 308 2 2 6e 303 1 2 6f 300 1 2 6f 301 1 2 6f 302 1 2 6f
    303 1 2 6f 308 3 2 75 300 1 2 75 301 1 2 75 302 1 2 75 308 1 2 79 301 2 2 79 308 1 2 41 304
    1 2 61 304 1 2 41 306 1 2 61 306 1 2 41 328 1 2 61 328 1 2 43 301 1 2 63 301 1 2 43 302 1 2
    63 302 1 2 43 307 1 2 63 307 1 2 43 30c 1 2 63 30c 1 2 44 30c 1 2 64 30c 3 2 45 304 1 2 65
    304 1 2 45 306 1 2 65 306 1 2 45 307 1 2 65 307 1 2 45 328 1 2 65 328 1 2 45 30c 1 2 65 30c
    1 2 47 302 1 2 67 302 1 2 47 306 1 2 67 306 1 2 47 307 1 2 67 307 1 2 47 327 1 2 67 327 1 2
    48 302 1 2 68 302 3 2 49 303 1 2 69 303 1 2 49 304 1 2 69 304 1 2 49 306 1 2 69 306 1 2 49
    328 1 2 69 328 1 2 49 307 2 2 49 4a 1 2 69 6a 1 2 4a 302 1 2 6a 302 1 2 4b 327 1 2 6b 327 2
    2 4c 301 1 2 6c 301 1 2 4c 327 1 2 6c 327 1 2 4c 30c 1 2 6c 30c 1 2 4c b7 1 2 6c b7 3 2 4e
    301 1 2 6e 301 1 2 4e 327 1 2 6e 327 1 2 4e 30c 1 2 6e 30c 1 2 2bc 6e 3 2 4f 304 1 2 6f 304
    1 2 4f 306 1 2 6f 306 1 2 4f 30b 1 2 6f 30b 3 2 52 301 1 2 72 301 1 2 52 327 1 2 72 327 1 2
    52 30c 1 2 72 30c 1 2 53 301 1 2 73 301 1 2 53 302 1 2 73 302 1 2 53 327 1 2 73 327 1 2 53
    30c 1 2 73 30c 1 2 54 327 1 2 74 327 1 2 54 30c 1 2 74 30c 3 2 55 303 1 2 75 303 1 2 55 304
    1 2 75 304 1 2 55 306 1 2 75 306 1 2 55 30a 1 2 75 30a 1 2 55 30b 1 2 75 30b 1 2 55 328 1 2
    75 328 1 2 57 302 1 2 77 302 1 2 59 302 1 2 79 302 1 2 59 308 1 2 5a 301 1 2 7a 301 1 2 5a
    307 1 2 7a 307 1 2 5a 30c 1 2 7a 30c 1 1 73 21 2 4f 31b 1 2 6f 31b e 2 55 31b 1 2 75 31b 14
    3 44 5a 30c 1 3 44 7a 30c 1 3 64 7a 30c 1 2 4c 4a 1 2 4c 6a 1 2 6c 6a 1 2 4e 4a 1 2 4e 6a 1
    2 6e 6a 1 2 41 30c 1 2 61 30c 1 2 49 30c 1 2 69 30c 1 2 4f 30c 1 2 6f 30c 1 2 55 30c 1 2 75
    30c 1 3 55 308 304 1 3 75 308 304 1 3 55 308 301 1 3 75 308 301 1 3 55 308 30c 1 3 75 308
    30c 1 3 55 308 300 1 3 75 308 300 2 3 41 308 304 1 3 61 308 304 1 3 41 307 304 1 3 61 307
    304 1 2 c6 304 1 2 e6 304 3 2 47 30c 1 2 67 30c 1 2 4b 30c 1 2 6b 30c 1 2 4f 328 1 2 6f 328
    1 3 4f 328 304 1 3 6f 328 304 1 2 1b7 30c 1 2 292 30c 1 2 6a 30c 1 2 44 5a 1 2 44 7a 1 2 64
    7a 1 2 47 301 1 2 67 301 3 2 4e 300 1 2 6e 300 1 3 41 30a 301 1 3 61 30a 301 1 2 c6 301 1 2
    e6 301 1 2 d8 301 1 2 f8 301 1 2 41 30f 1 2 61 30f 1 2 41 311 1 2 61 311 1 2 45 30f 1 2 65
    30f 1 2 45 311 1 2 65 311 1 2 49 30f 1 2 69 30f 1 2 49 311 1 2 69 311 1 2 4f 30f 1 2 6f 30f
    1 2 4f 311 1 2 6f 311 1 2 52 30f 1 2 72 30f 1 2 52 311 1 2 72 311 1 2 55 30f 1 2 75 30f 1 2
    55 311 1 2 75 311 1 2 53 326 1 2 73 326 1 2 54 326 1 2 74 326 3 2 48 30c 1 2 68 30c 7 2 41
    307 1 2 61 307 1 2 45 327 1 2 65 327 1 3 4f 308 304 1 3 6f 308 304 1 3 4f 303 304 1 3 6f
    303 304 1 2 4f 307 1 2 6f 307 1 3 4f 307 304 1 3 6f 307 304 1 2 59 304 1 2 79 304 7d 1 68 1
    1 266 1 1 6a 1 1 72 1 1 279 1 1 27b 1 1 281 1 1 77 1 1 79 20 2 20 306 1 2 20 307 1 2 20 30a
    1 2 20 328 1 2 20 303 1 2 20 30b 3 1 263 1 1 6c 1 1 73 1 1 78 1 1 295 5c 1 300 1 1 301 2 1
    313 1 2 308 301 30 1 2b9 6 2 20 345 4 1 3b 6 2 20 301 1 3 20 308 301 1 2 391 301 1 1 b7 1 2
    395 301 1 2 397 301 1 2 399 301 2 2 39f 301 2 2 3a5 301 1 2 3a9 301 1 3 3b9 308 301 1a 2
    399 308 1 2 3a5 308 1 2 3b1 301 1 2 3b5 301 1 2 3b7 301 1 2 3b9 301 1 3 3c5 308 301 1a 2
    3b9 308 1 2 3c5 308 1 2 3bf 301 1 2 3c5 301 1 2 3c9 301 2 1 3b2 1 1 3b8 1 1 3a5 1 2 3a5 301
    1 2 3a5 308 1 1 3c6 1 1 3c0 1a 1 3ba 1 1 3c1 1 1 3c2 2 1 398 1 1 3b5 4 1 3a3 7 2 415 300 1
    2 415 308 2 2 413 301 4 2 406 308 5 2 41a 301 1 2 418 300 1 2 423 306 b 2 418 306 20 2 438
    306 17 2 435 300 1 2 435 308 2 2 433 301 4 2 456 308 5 2 43a 301 1 2 438 300 1 2 443 306 18
    2 474 30f 1 2 475 30f 4a 2 416 306 1 2 436 306 e 2 410 306 1 2 430 306 1 2 410 308 1 2 430
    308 3 2 415 306 1 2 435 306 3 2 4d8 308 1 2 4d9 308 1 2 416 308 1 2 436 308 1 2 417 308 1 2
    437 308 3 2 418 304 1 2 438 304 1 2 418 308 1 2 438 308 1 2 41e 308 1 2 43e 308 3 2 4e8 308
    1 2 4e9 308 1 2 42d 308 1 2 44d 308 1 2 423 304 1 2 443 304 1 2 423 308 1 2 443 308 1 2 423
    30b 1 2 443 30b 1 2 427 308 1 2 447 308 3 2 42b 308 1 2 44b 308 8e 2 565 582 9b 2 627 653 1
    2 627 654 1 2 648 654 1 2 627 655 1 2 64a 654 4f 2 627 674 1 2 648 674 1 2 6c7 674 1 2 64a
    674 48 2 6d5 654 2 2 6c1 654 11 2 6d2 654 256 2 928 93c 8 2 930 93c 3 2 933 93c 24 2 915
    93c 1 2 916 93c 1 2 917 93c 1 2 91c 93c 1 2 921 93c 1 2 922 93c 1 2 92b 93c 1 2 92f 93c 6c
    2 9c7 9be 1 2 9c7 9d7 10 2 9a1 9bc 1 2 9a2 9bc 2 2 9af 9bc 54 2 a32 a3c 3 2 a38 a3c 23 2
    a16 a3c 1 2 a17 a3c 1 2 a1c a3c 3 2 a2b a3c ea 2 b47 b56 3 2 b47 b3e 1 2 b47 b57 10 2 b21
    b3c 1 2 b22 b3c 37 2 b92 bd7 36 2 bc6 bbe 1 2 bc7 bbe 1 2 bc6 bd7 7c 2 c46 c56 78 2 cbf cd5
    7 2 cc6 cd5 1 2 cc6 cd6 2 2 cc6 cc2 1 3 cc6 cc2 cd5 7f 2 d46 d3e 1 2 d47 d3e 1 2 d46 d57 8e
    2 dd9 dca 2 2 dd9 dcf 1 3 dd9 dcf dca 1 2 dd9 ddf 55 2 e4d e32 80 2 ecd eb2 29 2 eab e99 1
    2 eab ea1 2f 1 f0b 37 2 f42 fb7 a 2 f4c fb7 5 2 f51 fb7 5 2 f56 fb7 5 2 f5b fb7 d 2 f40 fb5
    a 2 f71 f72 2 2 f71 f74 1 2 fb2 f80 1 3 fb2 f71 f80 1 2 fb3 f80 1 3 fb3 f71 f80 8 2 f71 f80
    12 2 f92 fb7 a 2 f9c fb7 5 2 fa1 fb7 5 2 fa6 fb7 5 2 fab fb7 d 2 f90 fb5 6d 2 1025 102e d6
    1 10dc a0a 2 1b05 1b35 2 2 1b07 1b35 2 2 1b09 1b35 2 2 1b0b 1b35 2 2 1b0d 1b35 4 2 1b11
    1b35 29 2 1b3a 1b35 2 2 1b3c 1b35 3 2 1b3e 1b35 1 2 1b3f 1b35 2 2 1b42 1b35 1e9 1 41 1 1 c6
    1 1 42 2 1 44 1 1 45 1 1 18e 1 1 47 1 1 48 1 1 49 1 1 4a 1 1 4b 1 1 4c 1 1 4d 1 1 4e 2 1 4f
    1 1 222 1 1 50 1 1 52 1 1 54 1 1 55 1 1 57 1 1 61 1 1 250 1 1 251 1 1 1d02 1 1 62 1 1 64 1
    1 65 1 1 259 1 1 25b 1 1 25c 1 1 67 2 1 6b 1 1 6d 1 1 14b 1 1 6f 1 1 254 1 1 1d16 1 1 1d17
    1 1 70 1 1 74 1 1 75 1 1 1d1d 1 1 26f 1 1 76 1 1 1d25 1 1 3b2 1 1 3b3 1 1 3b4 1 1 3c6 1 1
    3c7 1 1 69 1 1 72 1 1 75 1 1 76 1 1 3b2 1 1 3b3 1 1 3c1 1 1 3c6 1 1 3c7 e 1 43d 23 1 252 1
    1 63 1 1 255 1 1 f0 1 1 25c 1 1 66 1 1 25f 1 1 261 1 1 265 1 1 268 1 1 269 1 1 26a 1 1 1d7b
    1 1 29d 1 1 26d 1 1 1d85 1 1 29f 1 1 271 1 1 270 1 1 272 1 1 273 1 1 274 1 1 275 1 1 278 1
    1 282 1 1 283 1 1 1ab 1 1 289 1 1 28a 1 1 1d1c 1 1 28b 1 1 28c 1 1 7a 1 1 290 1 1 291 1 1
    292 1 1 3b8 41 2 41 325 1 2 61 325 1 2 42 307 1 2 62 307 1 2 42 323 1 2 62 323 1 2 42 331 1
    2 62 331 1 3 43 327 301 1 3 63 327 301 1 2 44 307 1 2 64 307 1 2 44 323 1 2 64 323 1 2 44
    331 1 2 64 331 1 2 44 327 1 2 64 327 1 2 44 32d 1 2 64 32d 1 3 45 304 300 1 3 65 304 300 1
    3 45 304 301 1 3 65 304 301 1 2 45 32d 1 2 65 32d 1 2 45 330 1 2 65 330 1 3 45 327 306 1 3
    65 327 306 1 2 46 307 1 2 66 307 1 2 47 304 1 2 67 304 1 2 48 307 1 2 68 307 1 2 48 323 1 2
    68 323 1 2 48 308 1 2 68 308 1 2 48 327 1 2 68 327 1 2 48 32e 1 2 68 32e 1 2 49 330 1 2 69
    330 1 3 49 308 301 1 3 69 308 301 1 2 4b 301 1 2 6b 301 1 2 4b 323 1 2 6b 323 1 2 4b 331 1
    2 6b 331 1 2 4c 323 1 2 6c 323 1 3 4c 323 304 1 3 6c 323 304 1 2 4c 331 1 2 6c 331 1 2 4c
    32d 1 2 6c 32d 1 2 4d 301 1 2 6d 301 1 2 4d 307 1 2 6d 307 1 2 4d 323 1 2 6d 323 1 2 4e 307
    1 2 6e 307 1 2 4e 323 1 2 6e 323 1 2 4e 331 1 2 6e 331 1 2 4e 32d 1 2 6e 32d 1 3 4f 303 301
    1 3 6f 303 301 1 3 4f 303 308 1 3 6f 303 308 1 3 4f 304 300 1 3 6f 304 300 1 3 4f 304 301 1
    3 6f 304 301 1 2 50 301 1 2 70 301 1 2 50 307 1 2 70 307 1 2 52 307 1 2 72 307 1 2 52 323 1
    2 72 323 1 3 52 323 304 1 3 72 323 304 1 2 52 331 1 2 72 331 1 2 53 307 1 2 73 307 1 2 53
    323 1 2 73 323 1 3 53 301 307 1 3 73 301 307 1 3 53 30c 307 1 3 73 30c 307 1 3 53 323 307 1
    3 73 323 307 1 2 54 307 1 2 74 307 1 2 54 323 1 2 74 323 1 2 54 331 1 2 74 331 1 2 54 32d 1
    2 74 32d 1 2 55 324 1 2 75 324 1 2 55 330 1 2 75 330 1 2 55 32d 1 2 75 32d 1 3 55 303 301 1
    3 75 303 301 1 3 55 304 308 1 3 75 304 308 1 2 56 303 1 2 76 303 1 2 56 323 1 2 76 323 1 2
    57 300 1 2 77 300 1 2 57 301 1 2 77 301 1 2 57 308 1 2 77 308 1 2 57 307 1 2 77 307 1 2 57
    323 1 2 77 323 1 2 58 307 1 2 78 307 1 2 58 308 1 2 78 308 1 2 59 307 1 2 79 307 1 2 5a 302
    1 2 7a 302 1 2 5a 323 1 2 7a 323 1 2 5a 331 1 2 7a 331 1 2 68 331 1 2 74 308 1 2 77 30a 1 2
    79 30a 1 2 61 2be 1 2 73 307 5 2 41 323 1 2 61 323 1 2 41 309 1 2 61 309 1 3 41 302 301 1 3
    61 302 301 1 3 41 302 300 1 3 61 302 300 1 3 41 302 309 1 3 61 302 309 1 3 41 302 303 1 3
    61 302 303 1 3 41 323 302 1 3 61 323 302 1 3 41 306 301 1 3 61 306 301 1 3 41 306 300 1 3
    61 306 300 1 3 41 306 309 1 3 61 306 309 1 3 41 306 303 1 3 61 306 303 1 3 41 323 306 1 3
    61 323 306 1 2 45 323 1 2 65 323 1 2 45 309 1 2 65 309 1 2 45 303 1 2 65 303 1 3 45 302 301
    1 3 65 302 301 1 3 45 302 300 1 3 65 302 300 1 3 45 302 309 1 3 65 302 309 1 3 45 302 303 1
    3 65 302 303 1 3 45 323 302 1 3 65 323 302 1 2 49 309 1 2 69 309 1 2 49 323 1 2 69 323 1 2
    4f 323 1 2 6f 323 1 2 4f 309 1 2 6f 309 1 3 4f 302 301 1 3 6f 302 301 1 3 4f 302 300 1 3 6f
    302 300 1 3 4f 302 309 1 3 6f 302 309 1 3 4f 302 303 1 3 6f 302 303 1 3 4f 323 302 1 3 6f
    323 302 1 3 4f 31b 301 1 3 6f 31b 301 1 3 4f 31b 300 1 3 6f 31b 300 1 3 4f 31b 309 1 3 6f
    31b 309 1 3 4f 31b 303 1 3 6f 31b 303 1 3 4f 31b 323 1 3 6f 31b 323 1 2 55 323 1 2 75 323 1
    2 55 309 1 2 75 309 1 3 55 31b 301 1 3 75 31b 301 1 3 55 31b 300 1 3 75 31b 300 1 3 55 31b
    309 1 3 75 31b 309 1 3 55 31b 303 1 3 75 31b 303 1 3 55 31b 323 1 3 75 31b 323 1 2 59 300 1
    2 79 300 1 2 59 323 1 2 79 323 1 2 59 309 1 2 79 309 1 2 59 303 1 2 79 303 7 2 3b1 313 1 2
    3b1 314 1 3 3b1 313 300 1 3 3b1 314 300 1 3 3b1 313 301 1 3 3b1 314 301 1 3 3b1 313 342 1 3
    3b1 314 342 1 2 391 313 1 2 391 314 1 3 391 313 300 1 3 391 314 300 1 3 391 313 301 1 3 391
    314 301 1 3 391 313 342 1 3 391 314 342 1 2 3b5 313 1 2 3b5 314 1 3 3b5 313 300 1 3 3b5 314
    300 1 3 3b5 313 301 1 3 3b5 314 301 3 2 395 313 1 2 395 314 1 3 395 313 300 1 3 395 314 300
    1 3 395 313 301 1 3 395 314 301 3 2 3b7 313 1 2 3b7 314 1 3 3b7 313 300 1 3 3b7 314 300 1 3
    3b7 313 301 1 3 3b7 314 301 1 3 3b7 313 342 1 3 3b7 314 342 1 2 397 313 1 2 397 314 1 3 397
    313 300 1 3 397 314 300 1 3 397 313 301 1 3 397 314 301 1 3 397 313 342 1 3 397 314 342 1 2
    3b9 313 1 2 3b9 314 1 3 3b9 313 300 1 3 3b9 314 300 1 3 3b9 313 301 1 3 3b9 314 301 1 3 3b9
    313 342 1 3 3b9 314 342 1 2 399 313 1 2 399 314 1 3 399 313 300 1 3 399 314 300 1 3 399 313
    301 1 3 399 314 301 1 3 399 313 342 1 3 399 314 342 1 2 3bf 313 1 2 3bf 314 1 3 3bf 313 300
    1 3 3bf 314 300 1 3 3bf 313 301 1 3 3bf 314 301 3 2 39f 313 1 2 39f 314 1 3 39f 313 300 1 3
    39f 314 300 1 3 39f 313 301 1 3 39f 314 301 3 2 3c5 313 1 2 3c5 314 1 3 3c5 313 300 1 3 3c5
    314 300 1 3 3c5 313 301 1 3 3c5 314 301 1 3 3c5 313 342 1 3 3c5 314 342 2 2 3a5 314 2 3 3a5
    314 300 2 3 3a5 314 301 2 3 3a5 314 342 1 2 3c9 313 1 2 3c9 314 1 3 3c9 313 300 1 3 3c9 314
    300 1 3 3c9 313 301 1 3 3c9 314 301 1 3 3c9 313 342 1 3 3c9 314 342 1 2 3a9 313 1 2 3a9 314
    1 3 3a9 313 300 1 3 3a9 314 300 1 3 3a9 313 301 1 3 3a9 314 301 1 3 3a9 313 342 1 3 3a9 314
    342 1 2 3b1 300 1 2 3b1 301 1 2 3b5 300 1 2 3b5 301 1 2 3b7 300 1 2 3b7 301 1 2 3b9 300 1 2
    3b9 301 1 2 3bf 300 1 2 3bf 301 1 2 3c5 300 1 2 3c5 301 1 2 3c9 300 1 2 3c9 301 3 3 3b1 313
    345 1 3 3b1 314 345 1 4 3b1 313 300 345 1 4 3b1 314 300 345 1 4 3b1 313 301 345 1 4 3b1 314
    301 345 1 4 3b1 313 342 345 1 4 3b1 314 342 345 1 3 391 313 345 1 3 391 314 345 1 4 391 313
    300 345 1 4 391 314 300 345 1 4 391 313 301 345 1 4 391 314 301 345 1 4 391 313 342 345 1 4
    391 314 342 345 1 3 3b7 313 345 1 3 3b7 314 345 1 4 3b7 313 300 345 1 4 3b7 314 300 345 1 4
    3b7 313 301 345 1 4 3b7 314 301 345 1 4 3b7 313 342 345 1 4 3b7 314 342 345 1 3 397 313 345
    1 3 397 314 345 1 4 397 313 300 345 1 4 397 314 300 345 1 4 397 313 301 345 1 4 397 314 301
    345 1 4 397 313 342 345 1 4 397 314 342 345 1 3 3c9 313 345 1 3 3c9 314 345 1 4 3c9 313 300
    345 1 4 3c9 314 300 345 1 4 3c9 313 301 345 1 4 3c9 314 301 345 1 4 3c9 313 342 345 1 4 3c9
    314 342 345 1 3 3a9 313 345 1 3 3a9 314 345 1 4 3a9 313 300 345 1 4 3a9 314 300 345 1 4 3a9
    313 301 345 1 4 3a9 314 301 345 1 4 3a9 313 342 345 1 4 3a9 314 342 345 1 2 3b1 306 1 2 3b1
    304 1 3 3b1 300 345 1 2 3b1 345 1 3 3b1 301 345 2 2 3b1 342 1 3 3b1 342 345 1 2 391 306 1 2
    391 304 1 2 391 300 1 2 391 301 1 2 391 345 1 2 20 313 1 1 3b9 1 2 20 313 1 2 20 342 1 3 20
    308 342 1 3 3b7 300 345 1 2 3b7 345 1 3 3b7 301 345 2 2 3b7 342 1 3 3b7 342 345 1 2 395 300
    1 2 395 301 1 2 397 300 1 2 397 301 1 2 397 345 1 3 20 313 300 1 3 20 313 301 1 3 20 313
    342 1 2 3b9 306 1 2 3b9 304 1 3 3b9 308 300 1 3 3b9 308 301 3 2 3b9 342 1 3 3b9 308 342 1 2
    399 306 1 2 399 304 1 2 399 300 1 2 399 301 2 3 20 314 300 1 3 20 314 301 1 3 20 314 342 1
    2 3c5 306 1 2 3c5 304 1 3 3c5 308 300 1 3 3c5 308 301 1 2 3c1 313 1 2 3c1 314 1 2 3c5 342 1
    3 3c5 308 342 1 2 3a5 306 1 2 3a5 304 1 2 3a5 300 1 2 3a5 301 1 2 3a1 314 1 3 20 308 300 1
    3 20 308 301 1 1 60 3 3 3c9 300 345 1 2 3c9 345 1 3 3c9 301 345 2 2 3c9 342 1 3 3c9 342 345
    1 2 39f 300 1 2 39f 301 1 2 3a9 300 1 2 3a9 301 1 2 3a9 345 1 2 20 301 1 2 20 314 2 1 20 1
    1 20 1 1 20 1 1 20 1 1 20 1 1 20 1 1 20 1 1 20 1 1 20 1 1 20 1 1 20 7 1 2010 6 2 20 333 d 1
    2e 1 2 2e 2e 1 3 2e 2e 2e 9 1 20 4 2 2032 2032 1 3 2032 2032 2032 2 2 2035 2035 1 3 2035
    2035 2035 5 2 21 21 2 2 20 305 9 2 3f 3f 1 2 3f 21 1 2 21 3f e 4 2032 2032 2032 2032 8 1 20
    11 1 30 1 1 69 3 1 34 1 1 35 1 1 36 1 1 37 1 1 38 1 1 39 1 1 2b 1 1 2212 1 1 3d 1 1 28 1 1
    29 1 1 6e 1 1 30 1 1 31 1 1 32 1 1 33 1 1 34 1 1 35 1 1 36 1 1 37 1 1 38 1 1 39 1 1 2b 1 1
    2212 1 1 3d 1 1 28 1 1 29 2 1 61 1 1 65 1 1 6f 1 1 78 1 1 259 1 1 68 1 1 6b 1 1 6c 1 1 6d 1
    1 6e 1 1 70 1 1 73 1 1 74 c 2 52 73 58 3 61 2f 63 1 3 61 2f 73 1 1 43 1 2 b0 43 2 3 63 2f
    6f 1 3 63 2f 75 1 1 190 2 2 b0 46 1 1 67 1 1 48 1 1 48 1 1 48 1 1 68 1 1 127 1 1 49 1 1 49
    1 1 4c 1 1 6c 2 1 4e 1 2 4e 6f 3 1 50 1 1 51 1 1 52 1 1 52 1 1 52 3 2 53 4d 1 3 54 45 4c 1
    2 54 4d 2 1 5a 2 1 3a9 2 1 5a 2 1 4b 1 2 41 30a 1 1 42 1 1 43 2 1 65 1 1 45 1 1 46 2 1 4d 1
    1 6f 1 1 5d0 1 1 5d1 1 1 5d2 1 1 5d3 1 1 69 2 3 46 41 58 1 1 3c0 1 1 3b3 1 1 393 1 1 3a0 1
    1 2211 5 1 44 1 1 64 1 1 65 1 1 69 1 1 6a 7 3 31 2044 37 1 3 31 2044 39 1 4 31 2044 31 30 1
    3 31 2044 33 1 3 32 2044 33 1 3 31 2044 35 1 3 32 2044 35 1 3 33 2044 35 1 3 34 2044 35 1 3
    31 2044 36 1 3 35 2044 36 1 3 31 2044 38 1 3 33 2044 38 1 3 35 2044 38 1 3 37 2044 38 1 2
    31 2044 1 1 49 1 2 49 49 1 3 49 49 49 1 2 49 56 1 1 56 1 2 56 49 1 3 56 49 49 1 4 56 49 49
    49 1 2 49 58 1 1 58 1 2 58 49 1 3 58 49 49 1 1 4c 1 1 43 1 1 44 1 1 4d 1 1 69 1 2 69 69 1 3
    69 69 69 1 2 69 76 1 1 76 1 2 76 69 1 3 76 69 69 1 4 76 69 69 69 1 2 69 78 1 1 78 1 2 78 69
    1 3 78 69 69 1 1 6c 1 1 63 1 1 64 1 1 6d a 3 30 2044 33 11 2 2190 338 1 2 2192 338 13 2
    2194 338 1f 2 21d0 338 1 2 21d4 338 1 2 21d2 338 35 2 2203 338 5 2 2208 338 3 2 220b 338 18
    2 2223 338 2 2 2225 338 6 2 222b 222b 1 3 222b 222b 222b 2 2 222e 222e 1 3 222e 222e 222e
    11 2 223c 338 3 2 2243 338 3 2 2245 338 2 2 2248 338 17 2 3d 338 2 2 2261 338 b 2 224d 338
    1 2 3c 338 1 2 3e 338 1 2 2264 338 1 2 2265 338 3 2 2272 338 1 2 2273 338 3 2 2276 338 1 2
    2277 338 7 2 227a 338 1 2 227b 338 3 2 2282 338 1 2 2283 338 3 2 2286 338 1 2 2287 338 23 2
    22a2 338 1 2 22a8 338 1 2 22a9 338 1 2 22ab 338 31 2 227c 338 1 2 227d 338 1 2 2291 338 1 2
    2292 338 7 2 22b2 338 1 2 22b3 338 1 2 22b4 338 1 2 22b5 338 3c 1 3008 1 1 3009 136 1 31 1
    1 32 1 1 33 1 1 34 1 1 35 1 1 36 1 1 37 1 1 38 1 1 39 1 2 31 30 1 2 31 31 1 2 31 32 1 2 31
    33 1 2 31 34 1 2 31 35 1 2 31 36 1 2 31 37 1 2 31 38 1 2 31 39 1 2 32 30 1 3 28 31 29 1 3
    28 32 29 1 3 28 33 29 1 3 28 34 29 1 3 28 35 29 1 3 28 36 29 1 3 28 37 29 1 3 28 38 29 1 3
    28 39 29 1 4 28 31 30 29 1 4 28 31 31 29 1 4 28 31 32 29 1 4 28 31 33 29 1 4 28 31 34 29 1
    4 28 31 35 29 1 4 28 31 36 29 1 4 28 31 37 29 1 4 28 31 38 29 1 4 28 31 39 29 1 4 28 32 30
    29 1 2 31 2e 1 2 32 2e 1 2 33 2e 1 2 34 2e 1 2 35 2e 1 2 36 2e 1 2 37 2e 1 2 38 2e 1 2 39
    2e 1 3 31 30 2e 1 3 31 31 2e 1 3 31 32 2e 1 3 31 33 2e 1 3 31 34 2e 1 3 31 35 2e 1 3 31 36
    2e 1 3 31 37 2e 1 3 31 38 2e 1 3 31 39 2e 1 3 32 30 2e 1 3 28 61 29 1 3 28 62 29 1 3 28 63
    29 1 3 28 64 29 1 3 28 65 29 1 3 28 66 29 1 3 28 67 29 1 3 28 68 29 1 3 28 69 29 1 3 28 6a
    29 1 3 28 6b 29 1 3 28 6c 29 1 3 28 6d 29 1 3 28 6e 29 1 3 28 6f 29 1 3 28 70 29 1 3 28 71
    29 1 3 28 72 29 1 3 28 73 29 1 3 28 74 29 1 3 28 75 29 1 3 28 76 29 1 3 28 77 29 1 3 28 78
    29 1 3 28 79 29 1 3 28 7a 29 1 1 41 1 1 42 1 1 43 1 1 44 1 1 45 1 1 46 1 1 47 1 1 48 1 1 49
    1 1 4a 1 1 4b 1 1 4c 1 1 4d 1 1 4e 1 1 4f 1 1 50 1 1 51 1 1 52 1 1 53 1 1 54 1 1 55 1 1 56
    1 1 57 1 1 58 1 1 59 1 1 5a 1 1 61 1 1 62 1 1 63 1 1 64 1 1 65 1 1 66 1 1 67 1 1 68 1 1 69
    1 1 6a 1 1 6b 1 1 6c 1 1 6d 1 1 6e 1 1 6f 1 1 70 1 1 71 1 1 72 1 1 73 1 1 74 1 1 75 1 1 76
    1 1 77 1 1 78 1 1 79 1 1 7a 1 1 30 522 4 222b 222b 222b 222b 68 3 3a 3a 3d 1 2 3d 3d 1 3 3d
    3d 3d 66 2 2add 338 1a0 1 6a 1 1 56 f2 1 2d61 130 1 6bcd 54 1 9f9f d 1 4e00 1 1 4e28 1 1
    4e36 1 1 4e3f 1 1 4e59 1 1 4e85 1 1 4e8c 1 1 4ea0 1 1 4eba 1 1 513f 1 1 5165 1 1 516b 1 1
    5182 1 1 5196 1 1 51ab 1 1 51e0 1 1 51f5 1 1 5200 1 1 529b 1 1 52f9 1 1 5315 1 1 531a 1 1
    5338 1 1 5341 1 1 535c 1 1 5369 1 1 5382 1 1 53b6 1 1 53c8 1 1 53e3 1 1 56d7 1 1 571f 1 1
    58eb 1 1 5902 1 1 590a 1 1 5915 1 1 5927 1 1 5973 1 1 5b50 1 1 5b80 1 1 5bf8 1 1 5c0f 1 1
    5c22 1 1 5c38 1 1 5c6e 1 1 5c71 1 1 5ddb 1 1 5de5 1 1 5df1 1 1 5dfe 1 1 5e72 1 1 5e7a 1 1
    5e7f 1 1 5ef4 1 1 5efe 1 1 5f0b 1 1 5f13 1 1 5f50 1 1 5f61 1 1 5f73 1 1 5fc3 1 1 6208 1 1
    6236 1 1 624b 1 1 652f 1 1 6534 1 1 6587 1 1 6597 1 1 65a4 1 1 65b9 1 1 65e0 1 1 65e5 1 1
    66f0 1 1 6708 1 1 6728 1 1 6b20 1 1 6b62 1 1 6b79 1 1 6bb3 1 1 6bcb 1 1 6bd4 1 1 6bdb 1 1
    6c0f 1 1 6c14 1 1 6c34 1 1 706b 1 1 722a 1 1 7236 1 1 723b 1 1 723f 1 1 7247 1 1 7259 1 1
    725b 1 1 72ac 1 1 7384 1 1 7389 1 1 74dc 1 1 74e6 1 1 7518 1 1 751f 1 1 7528 1 1 7530 1 1
    758b 1 1 7592 1 1 7676 1 1 767d 1 1 76ae 1 1 76bf 1 1 76ee 1 1 77db 1 1 77e2 1 1 77f3 1 1
    793a 1 1 79b8 1 1 79be 1 1 7a74 1 1 7acb 1 1 7af9 1 1 7c73 1 1 7cf8 1 1 7f36 1 1 7f51 1 1
    7f8a 1 1 7fbd 1 1 8001 1 1 800c 1 1 8012 1 1 8033 1 1 807f 1 1 8089 1 1 81e3 1 1 81ea 1 1
    81f3 1 1 81fc 1 1 820c 1 1 821b 1 1 821f 1 1 826e 1 1 8272 1 1 8278 1 1 864d 1 1 866b 1 1
    8840 1 1 884c 1 1 8863 1 1 897e 1 1 898b 1 1 89d2 1 1 8a00 1 1 8c37 1 1 8c46 1 1 8c55 1 1
    8c78 1 1 8c9d 1 1 8d64 1 1 8d70 1 1 8db3 1 1 8eab 1 1 8eca 1 1 8f9b 1 1 8fb0 1 1 8fb5 1 1
    9091 1 1 9149 1 1 91c6 1 1 91cc 1 1 91d1 1 1 9577 1 1 9580 1 1 961c 1 1 96b6 1 1 96b9 1 1
    96e8 1 1 9751 1 1 975e 1 1 9762 1 1 9769 1 1 97cb 1 1 97ed 1 1 97f3 1 1 9801 1 1 98a8 1 1
    98db 1 1 98df 1 1 9996 1 1 9999 1 1 99ac 1 1 9aa8 1 1 9ad8 1 1 9adf 1 1 9b25 1 1 9b2f 1 1
    9b32 1 1 9b3c 1 1 9b5a 1 1 9ce5 1 1 9e75 1 1 9e7f 1 1 9ea5 1 1 9ebb 1 1 9ec3 1 1 9ecd 1 1
    9ed1 1 1 9ef9 1 1 9efd 1 1 9f0e 1 1 9f13 1 1 9f20 1 1 9f3b 1 1 9f4a 1 1 9f52 1 1 9f8d 1 1
    9f9c 1 1 9fa0 2b 1 20 36 1 3012 2 1 5341 1 1 5344 1 1 5345 12 2 304b 3099 2 2 304d 3099 2 2
    304f 3099 2 2 3051 3099 2 2 3053 3099 2 2 3055 3099 2 2 3057 3099 2 2 3059 3099 2 2 305b
    3099 2 2 305d 3099 2 2 305f 3099 2 2 3061 3099 3 2 3064 3099 2 2 3066 3099 2 2 3068 3099 7
    2 306f 3099 1 2 306f 309a 2 2 3072 3099 1 2 3072 309a 2 2 3075 3099 1 2 3075 309a 2 2 3078
    3099 1 2 3078 309a 2 2 307b 3099 1 2 307b 309a 17 2 3046 3099 7 2 20 3099 1 2 20 309a 2 2
    309d 3099 1 2 3088 308a d 2 30ab 3099 2 2 30ad 3099 2 2 30af 3099 2 2 30b1 3099 2 2 30b3
    3099 2 2 30b5 3099 2 2 30b7 3099 2 2 30b9 3099 2 2 30bb 3099 2 2 30bd 3099 2 2 30bf 3099 2
    2 30c1 3099 3 2 30c4 3099 2 2 30c6 3099 2 2 30c8 3099 7 2 30cf 3099 1 2 30cf 309a 2 2 30d2
    3099 1 2 30d2 309a 2 2 30d5 3099 1 2 30d5 309a 2 2 30d8 3099 1 2 30d8 309a 2 2 30db 3099 1
    2 30db 309a 17 2 30a6 3099 3 2 30ef 3099 1 2 30f0 3099 1 2 30f1 3099 1 2 30f2 3099 4 2 30fd
    3099 1 2 30b3 30c8 32 1 1100 1 1 1101 1 1 11aa 1 1 1102 1 1 11ac 1 1 11ad 1 1 1103 1 1 1104
    1 1 1105 1 1 11b0 1 1 11b1 1 1 11b2 1 1 11b3 1 1 11b4 1 1 11b5 1 1 111a 1 1 1106 1 1 1107 1
    1 1108 1 1 1121 1 1 1109 1 1 110a 1 1 110b 1 1 110c 1 1 110d 1 1 110e 1 1 110f 1 1 1110 1 1
    1111 1 1 1112 1 1 1161 1 1 1162 1 1 1163 1 1 1164 1 1 1165 1 1 1166 1 1 1167 1 1 1168 1 1
    1169 1 1 116a 1 1 116b 1 1 116c 1 1 116d 1 1 116e 1 1 116f 1 1 1170 1 1 1171 1 1 1172 1 1
    1173 1 1 1174 1 1 1175 1 1 1160 1 1 1114 1 1 1115 1 1 11c7 1 1 11c8 1 1 11cc 1 1 11ce 1 1
    11d3 1 1 11d7 1 1 11d9 1 1 111c 1 1 11dd 1 1 11df 1 1 111d 1 1 111e 1 1 1120 1 1 1122 1 1
    1123 1 1 1127 1 1 1129 1 1 112b 1 1 112c 1 1 112d 1 1 112e 1 1 112f 1 1 1132 1 1 1136 1 1
    1140 1 1 1147 1 1 114c 1 1 11f1 1 1 11f2 1 1 1157 1 1 1158 1 1 1159 1 1 1184 1 1 1185 1 1
    1188 1 1 1191 1 1 1192 1 1 1194 1 1 119e 1 1 11a1 4 1 4e00 1 1 4e8c 1 1 4e09 1 1 56db 1 1
    4e0a 1 1 4e2d 1 1 4e0b 1 1 7532 1 1 4e59 1 1 4e19 1 1 4e01 1 1 5929 1 1 5730 1 1 4eba 61 3
    28 1100 29 1 3 28 1102 29 1 3 28 1103 29 1 3 28 1105 29 1 3 28 1106 29 1 3 28 1107 29 1 3
    28 1109 29 1 3 28 110b 29 1 3 28 110c 29 1 3 28 110e 29 1 3 28 110f 29 1 3 28 1110 29 1 3
    28 1111 29 1 3 28 1112 29 1 4 28 1100 1161 29 1 4 28 1102 1161 29 1 4 28 1103 1161 29 1 4
    28 1105 1161 29 1 4 28 1106 1161 29 1 4 28 1107 1161 29 1 4 28 1109 1161 29 1 4 28 110b
    1161 29 1 4 28 110c 1161 29 1 4 28 110e 1161 29 1 4 28 110f 1161 29 1 4 28 1110 1161 29 1 4
    28 1111 1161 29 1 4 28 1112 1161 29 1 4 28 110c 116e 29 1 7 28 110b 1169 110c 1165 11ab 29
    1 6 28 110b 1169 1112 116e 29 2 3 28 4e00 29 1 3 28 4e8c 29 1 3 28 4e09 29 1 3 28 56db 29 1
    3 28 4e94 29 1 3 28 516d 29 1 3 28 4e03 29 1 3 28 516b 29 1 3 28 4e5d 29 1 3 28 5341 29 1 3
    28 6708 29 1 3 28 706b 29 1 3 28 6c34 29 1 3 28 6728 29 1 3 28 91d1 29 1 3 28 571f 29 1 3
    28 65e5 29 1 3 28 682a 29 1 3 28 6709 29 1 3 28 793e 29 1 3 28 540d 29 1 3 28 7279 29 1 3
    28 8ca1 29 1 3 28 795d 29 1 3 28 52b4 29 1 3 28 4ee3 29 1 3 28 547c 29 1 3 28 5b66 29 1 3
    28 76e3 29 1 3 28 4f01 29 1 3 28 8cc7 29 1 3 28 5354 29 1 3 28 796d 29 1 3 28 4f11 29 1 3
    28 81ea 29 1 3 28 81f3 29 1 1 554f 1 1 5e7c 1 1 6587 1 1 7b8f 9 3 50 54 45 1 2 32 31 1 2 32
    32 1 2 32 33 1 2 32 34 1 2 32 35 1 2 32 36 1 2 32 37 1 2 32 38 1 2 32 39 1 2 33 30 1 2 33
    31 1 2 33 32 1 2 33 33 1 2 33 34 1 2 33 35 1 1 1100 1 1 1102 1 1 1103 1 1 1105 1 1 1106 1 1
    1107 1 1 1109 1 1 110b 1 1 110c 1 1 110e 1 1 110f 1 1 1110 1 1 1111 1 1 1112 1 2 1100 1161
    1 2 1102 1161 1 2 1103 1161 1 2 1105 1161 1 2 1106 1161 1 2 1107 1161 1 2 1109 1161 1 2
    110b 1161 1 2 110c 1161 1 2 110e 1161 1 2 110f 1161 1 2 1110 1161 1 2 1111 1161 1 2 1112
    1161 1 5 110e 1161 11b7 1100 1169 1 4 110c 116e 110b 1174 1 2 110b 116e 2 1 4e00 1 1 4e8c 1
    1 4e09 1 1 56db 1 1 4e94 1 1 516d 1 1 4e03 1 1 516b 1 1 4e5d 1 1 5341 1 1 6708 1 1 706b 1 1
    6c34 1 1 6728 1 1 91d1 1 1 571f 1 1 65e5 1 1 682a 1 1 6709 1 1 793e 1 1 540d 1 1 7279 1 1
    8ca1 1 1 795d 1 1 52b4 1 1 79d8 1 1 7537 1 1 5973 1 1 9069 1 1 512a 1 1 5370 1 1 6ce8 1 1
    9805 1 1 4f11 1 1 5199 1 1 6b63 1 1 4e0a 1 1 4e2d 1 1 4e0b 1 1 5de6 1 1 53f3 1 1 533b 1 1
    5b97 1 1 5b66 1 1 76e3 1 1 4f01 1 1 8cc7 1 1 5354 1 1 591c 1 2 33 36 1 2 33 37 1 2 33 38 1
    2 33 39 1 2 34 30 1 2 34 31 1 2 34 32 1 2 34 33 1 2 34 34 1 2 34 35 1 2 34 36 1 2 34 37 1 2
    34 38 1 2 34 39 1 2 35 30 1 2 31 6708 1 2 32 6708 1 2 33 6708 1 2 34 6708 1 2 35 6708 1 2
    36 6708 1 2 37 6708 1 2 38 6708 1 2 39 6708 1 3 31 30 6708 1 3 31 31 6708 1 3 31 32 6708 1
    2 48 67 1 3 65 72 67 1 2 65 56 1 3 4c 54 44 1 1 30a2 1 1 30a4 1 1 30a6 1 1 30a8 1 1 30aa 1
    1 30ab 1 1 30ad 1 1 30af 1 1 30b1 1 1 30b3 1 1 30b5 1 1 30b7 1 1 30b9 1 1 30bb 1 1 30bd 1 1
    30bf 1 1 30c1 1 1 30c4 1 1 30c6 1 1 30c8 1 1 30ca 1 1 30cb 1 1 30cc 1 1 30cd 1 1 30ce 1 1
    30cf 1 1 30d2 1 1 30d5 1 1 30d8 1 1 30db 1 1 30de 1 1 30df 1 1 30e0 1 1 30e1 1 1 30e2 1 1
    30e4 1 1 30e6 1 1 30e8 1 1 30e9 1 1 30ea 1 1 30eb 1 1 30ec 1 1 30ed 1 1 30ef 1 1 30f0 1 1
    30f1 1 1 30f2 1 2 4ee4 548c 1 5 30a2 30cf 309a 30fc 30c8 1 4 30a2 30eb 30d5 30a1 1 5 30a2
    30f3 30d8 309a 30a2 1 3 30a2 30fc 30eb 1 5 30a4 30cb 30f3 30af 3099 1 3 30a4 30f3 30c1 1 3
    30a6 30a9 30f3 1 6 30a8 30b9 30af 30fc 30c8 3099 1 4 30a8 30fc 30ab 30fc 1 3 30aa 30f3 30b9
    1 3 30aa 30fc 30e0 1 3 30ab 30a4 30ea 1 4 30ab 30e9 30c3 30c8 1 4 30ab 30ed 30ea 30fc 1 4
    30ab 3099 30ed 30f3 1 4 30ab 3099 30f3 30de 1 4 30ad 3099 30ab 3099 1 4 30ad 3099 30cb 30fc
    1 4 30ad 30e5 30ea 30fc 1 6 30ad 3099 30eb 30bf 3099 30fc 1 2 30ad 30ed 1 6 30ad 30ed 30af
    3099 30e9 30e0 1 6 30ad 30ed 30e1 30fc 30c8 30eb 1 5 30ad 30ed 30ef 30c3 30c8 1 4 30af 3099
    30e9 30e0 1 6 30af 3099 30e9 30e0 30c8 30f3 1 6 30af 30eb 30bb 3099 30a4 30ed 1 4 30af 30ed
    30fc 30cd 1 3 30b1 30fc 30b9 1 3 30b3 30eb 30ca 1 4 30b3 30fc 30db 309a 1 4 30b5 30a4 30af
    30eb 1 5 30b5 30f3 30c1 30fc 30e0 1 5 30b7 30ea 30f3 30af 3099 1 3 30bb 30f3 30c1 1 3 30bb
    30f3 30c8 1 4 30bf 3099 30fc 30b9 1 3 30c6 3099 30b7 1 3 30c8 3099 30eb 1 2 30c8 30f3 1 2
    30ca 30ce 1 3 30ce 30c3 30c8 1 3 30cf 30a4 30c4 1 6 30cf 309a 30fc 30bb 30f3 30c8 1 4 30cf
    309a 30fc 30c4 1 5 30cf 3099 30fc 30ec 30eb 1 6 30d2 309a 30a2 30b9 30c8 30eb 1 4 30d2 309a
    30af 30eb 1 3 30d2 309a 30b3 1 3 30d2 3099 30eb 1 6 30d5 30a1 30e9 30c3 30c8 3099 1 4 30d5
    30a3 30fc 30c8 1 6 30d5 3099 30c3 30b7 30a7 30eb 1 3 30d5 30e9 30f3 1 5 30d8 30af 30bf 30fc
    30eb 1 3 30d8 309a 30bd 1 4 30d8 309a 30cb 30d2 1 3 30d8 30eb 30c4 1 4 30d8 309a 30f3 30b9
    1 5 30d8 309a 30fc 30b7 3099 1 4 30d8 3099 30fc 30bf 1 5 30db 309a 30a4 30f3 30c8 1 4 30db
    3099 30eb 30c8 1 2 30db 30f3 1 5 30db 309a 30f3 30c8 3099 1 3 30db 30fc 30eb 1 3 30db 30fc
    30f3 1 4 30de 30a4 30af 30ed 1 3 30de 30a4 30eb 1 3 30de 30c3 30cf 1 3 30de 30eb 30af 1 5
    30de 30f3 30b7 30e7 30f3 1 4 30df 30af 30ed 30f3 1 2 30df 30ea 1 6 30df 30ea 30cf 3099 30fc
    30eb 1 3 30e1 30ab 3099 1 5 30e1 30ab 3099 30c8 30f3 1 4 30e1 30fc 30c8 30eb 1 4 30e4 30fc
    30c8 3099 1 3 30e4 30fc 30eb 1 3 30e6 30a2 30f3 1 4 30ea 30c3 30c8 30eb 1 2 30ea 30e9 1 4
    30eb 30d2 309a 30fc 1 5 30eb 30fc 30d5 3099 30eb 1 2 30ec 30e0 1 6 30ec 30f3 30c8 30b1 3099
    30f3 1 3 30ef 30c3 30c8 1 2 30 70b9 1 2 31 70b9 1 2 32 70b9 1 2 33 70b9 1 2 34 70b9 1 2 35
    70b9 1 2 36 70b9 1 2 37 70b9 1 2 38 70b9 1 2 39 70b9 1 3 31 30 70b9 1 3 31 31 70b9 1 3 31
    32 70b9 1 3 31 33 70b9 1 3 31 34 70b9 1 3 31 35 70b9 1 3 31 36 70b9 1 3 31 37 70b9 1 3 31
    38 70b9 1 3 31 39 70b9 1 3 32 30 70b9 1 3 32 31 70b9 1 3 32 32 70b9 1 3 32 33 70b9 1 3 32
    34 70b9 1 3 68 50 61 1 2 64 61 1 2 41 55 1 3 62 61 72 1 2 6f 56 1 2 70 63 1 2 64 6d 1 3 64
    6d 32 1 3 64 6d 33 1 2 49 55 1 2 5e73 6210 1 2 662d 548c 1 2 5927 6b63 1 2 660e 6cbb 1 4
    682a 5f0f 4f1a 793e 1 2 70 41 1 2 6e 41 1 2 3bc 41 1 2 6d 41 1 2 6b 41 1 2 4b 42 1 2 4d 42
    1 2 47 42 1 3 63 61 6c 1 4 6b 63 61 6c 1 2 70 46 1 2 6e 46 1 2 3bc 46 1 2 3bc 67 1 2 6d 67
    1 2 6b 67 1 2 48 7a 1 3 6b 48 7a 1 3 4d 48 7a 1 3 47 48 7a 1 3 54 48 7a 1 2 3bc 6c 1 2 6d
    6c 1 2 64 6c 1 2 6b 6c 1 2 66 6d 1 2 6e 6d 1 2 3bc 6d 1 2 6d 6d 1 2 63 6d 1 2 6b 6d 1 3 6d
    6d 32 1 3 63 6d 32 1 2 6d 32 1 3 6b 6d 32 1 3 6d 6d 33 1 3 63 6d 33 1 2 6d 33 1 3 6b 6d 33
    1 3 6d 2215 73 1 4 6d 2215 73 32 1 2 50 61 1 3 6b 50 61 1 3 4d 50 61 1 3 47 50 61 1 3 72 61
    64 1 5 72 61 64 2215 73 1 6 72 61 64 2215 73 32 1 2 70 73 1 2 6e 73 1 2 3bc 73 1 2 6d 73 1
    2 70 56 1 2 6e 56 1 2 3bc 56 1 2 6d 56 1 2 6b 56 1 2 4d 56 1 2 70 57 1 2 6e 57 1 2 3bc 57 1
    2 6d 57 1 2 6b 57 1 2 4d 57 1 2 6b 3a9 1 2 4d 3a9 1 4 61 2e 6d 2e 1 2 42 71 1 2 63 63 1 2
    63 64 1 4 43 2215 6b 67 1 3 43 6f 2e 1 2 64 42 1 2 47 79 1 2 68 61 1 2 48 50 1 2 69 6e 1 2
    4b 4b 1 2 4b 4d 1 2 6b 74 1 2 6c 6d 1 2 6c 6e 1 3 6c 6f 67 1 2 6c 78 1 2 6d 62 1 3 6d 69 6c
    1 3 6d 6f 6c 1 2 50 48 1 4 70 2e 6d 2e 1 3 50 50 4d 1 2 50 52 1 2 73 72 1 2 53 76 1 2 57 62
    1 3 56 2215 6d 1 3 41 2215 6d 1 2 31 65e5 1 2 32 65e5 1 2 33 65e5 1 2 34 65e5 1 2 35 65e5 1
    2 36 65e5 1 2 37 65e5 1 2 38 65e5 1 2 39 65e5 1 3 31 30 65e5 1 3 31 31 65e5 1 3 31 32 65e5
    1 3 31 33 65e5 1 3 31 34 65e5 1 3 31 35 65e5 1 3 31 36 65e5 1 3 31 37 65e5 1 3 31 38 65e5 1
    3 31 39 65e5 1 3 32 30 65e5 1 3 32 31 65e5 1 3 32 32 65e5 1 3 32 33 65e5 1 3 32 34 65e5 1 3
    32 35 65e5 1 3 32 36 65e5 1 3 32 37 65e5 1 3 32 38 65e5 1 3 32 39 65e5 1 3 33 30 65e5 1 3
    33 31 65e5 1 3 67 61 6c 729d 1 44a 1 1 44c d3 1 a76f 82 1 43 1 1 46 1 1 51 4 1 126 1 1 153
    363 1 a727 1 1 ab37 1 1 26b 1 1 ab52 a 1 28d 4d97 1 8c48 1 1 66f4 1 1 8eca 1 1 8cc8 1 1
    6ed1 1 1 4e32 1 1 53e5 1 1 9f9c 1 1 9f9c 1 1 5951 1 1 91d1 1 1 5587 1 1 5948 1 1 61f6 1 1
    7669 1 1 7f85 1 1 863f 1 1 87ba 1 1 88f8 1 1 908f 1 1 6a02 1 1 6d1b 1 1 70d9 1 1 73de 1 1
    843d 1 1 916a 1 1 99f1 1 1 4e82 1 1 5375 1 1 6b04 1 1 721b 1 1 862d 1 1 9e1e 1 1 5d50 1 1
    6feb 1 1 85cd 1 1 8964 1 1 62c9 1 1 81d8 1 1 881f 1 1 5eca 1 1 6717 1 1 6d6a 1 1 72fc 1 1
    90ce 1 1 4f86 1 1 51b7 1 1 52de 1 1 64c4 1 1 6ad3 1 1 7210 1 1 76e7 1 1 8001 1 1 8606 1 1
    865c 1 1 8def 1 1 9732 1 1 9b6f 1 1 9dfa 1 1 788c 1 1 797f 1 1 7da0 1 1 83c9 1 1 9304 1 1
    9e7f 1 1 8ad6 1 1 58df 1 1 5f04 1 1 7c60 1 1 807e 1 1 7262 1 1 78ca 1 1 8cc2 1 1 96f7 1 1
    58d8 1 1 5c62 1 1 6a13 1 1 6dda 1 1 6f0f 1 1 7d2f 1 1 7e37 1 1 964b 1 1 52d2 1 1 808b 1 1
    51dc 1 1 51cc 1 1 7a1c 1 1 7dbe 1 1 83f1 1 1 9675 1 1 8b80 1 1 62cf 1 1 6a02 1 1 8afe 1 1
    4e39 1 1 5be7 1 1 6012 1 1 7387 1 1 7570 1 1 5317 1 1 78fb 1 1 4fbf 1 1 5fa9 1 1 4e0d 1 1
    6ccc 1 1 6578 1 1 7d22 1 1 53c3 1 1 585e 1 1 7701 1 1 8449 1 1 8aaa 1 1 6bba 1 1 8fb0 1 1
    6c88 1 1 62fe 1 1 82e5 1 1 63a0 1 1 7565 1 1 4eae 1 1 5169 1 1 51c9 1 1 6881 1 1 7ce7 1 1
    826f 1 1 8ad2 1 1 91cf 1 1 52f5 1 1 5442 1 1 5973 1 1 5eec 1 1 65c5 1 1 6ffe 1 1 792a 1 1
    95ad 1 1 9a6a 1 1 9e97 1 1 9ece 1 1 529b 1 1 66c6 1 1 6b77 1 1 8f62 1 1 5e74 1 1 6190 1 1
    6200 1 1 649a 1 1 6f23 1 1 7149 1 1 7489 1 1 79ca 1 1 7df4 1 1 806f 1 1 8f26 1 1 84ee 1 1
    9023 1 1 934a 1 1 5217 1 1 52a3 1 1 54bd 1 1 70c8 1 1 88c2 1 1 8aaa 1 1 5ec9 1 1 5ff5 1 1
    637b 1 1 6bae 1 1 7c3e 1 1 7375 1 1 4ee4 1 1 56f9 1 1 5be7 1 1 5dba 1 1 601c 1 1 73b2 1 1
    7469 1 1 7f9a 1 1 8046 1 1 9234 1 1 96f6 1 1 9748 1 1 9818 1 1 4f8b 1 1 79ae 1 1 91b4 1 1
    96b8 1 1 60e1 1 1 4e86 1 1 50da 1 1 5bee 1 1 5c3f 1 1 6599 1 1 6a02 1 1 71ce 1 1 7642 1 1
    84fc 1 1 907c 1 1 9f8d 1 1 6688 1 1 962e 1 1 5289 1 1 677b 1 1 67f3 1 1 6d41 1 1 6e9c 1 1
    7409 1 1 7559 1 1 786b 1 1 7d10 1 1 985e 1 1 516d 1 1 622e 1 1 9678 1 1 502b 1 1 5d19 1 1
    6dea 1 1 8f2a 1 1 5f8b 1 1 6144 1 1 6817 1 1 7387 1 1 9686 1 1 5229 1 1 540f 1 1 5c65 1 1
    6613 1 1 674e 1 1 68a8 1 1 6ce5 1 1 7406 1 1 75e2 1 1 7f79 1 1 88cf 1 1 88e1 1 1 91cc 1 1
    96e2 1 1 533f 1 1 6eba 1 1 541d 1 1 71d0 1 1 7498 1 1 85fa 1 1 96a3 1 1 9c57 1 1 9e9f 1 1
    6797 1 1 6dcb 1 1 81e8 1 1 7acb 1 1 7b20 1 1 7c92 1 1 72c0 1 1 7099 1 1 8b58 1 1 4ec0 1 1
    8336 1 1 523a 1 1 5207 1 1 5ea6 1 1 62d3 1 1 7cd6 1 1 5b85 1 1 6d1e 1 1 66b4 1 1 8f3b 1 1
    884c 1 1 964d 1 1 898b 1 1 5ed3 1 1 5140 1 1 55c0 3 1 585a 2 1 6674 3 1 51de 1 1 732a 1 1
    76ca 1 1 793c 1 1 795e 1 1 7965 1 1 798f 1 1 9756 1 1 7cbe 1 1 7fbd 2 1 8612 2 1 8af8 3 1
    9038 1 1 90fd 4 1 98ef 1 1 98fc 1 1 9928 1 1 9db4 1 1 90de 1 1 96b7 1 1 4fae 1 1 50e7 1 1
    514d 1 1 52c9 1 1 52e4 1 1 5351 1 1 559d 1 1 5606 1 1 5668 1 1 5840 1 1 58a8 1 1 5c64 1 1
    5c6e 1 1 6094 1 1 6168 1 1 618e 1 1 61f2 1 1 654f 1 1 65e2 1 1 6691 1 1 6885 1 1 6d77 1 1
    6e1a 1 1 6f22 1 1 716e 1 1 722b 1 1 7422 1 1 7891 1 1 793e 1 1 7949 1 1 7948 1 1 7950 1 1
    7956 1 1 795d 1 1 798d 1 1 798e 1 1 7a40 1 1 7a81 1 1 7bc0 1 1 7df4 1 1 7e09 1 1 7e41 1 1
    7f72 1 1 8005 1 1 81ed 1 1 8279 1 1 8279 1 1 8457 1 1 8910 1 1 8996 1 1 8b01 1 1 8b39 1 1
    8cd3 1 1 8d08 1 1 8fb6 1 1 9038 1 1 96e3 1 1 97ff 1 1 983b 1 1 6075 1 1 242ee 1 1 8218 3 1
    4e26 1 1 51b5 1 1 5168 1 1 4f80 1 1 5145 1 1 5180 1 1 52c7 1 1 52fa 1 1 559d 1 1 5555 1 1
    5599 1 1 55e2 1 1 585a 1 1 58b3 1 1 5944 1 1 5954 1 1 5a62 1 1 5b28 1 1 5ed2 1 1 5ed9 1 1
    5f69 1 1 5fad 1 1 60d8 1 1 614e 1 1 6108 1 1 618e 1 1 6160 1 1 61f2 1 1 6234 1 1 63c4 1 1
    641c 1 1 6452 1 1 6556 1 1 6674 1 1 6717 1 1 671b 1 1 6756 1 1 6b79 1 1 6bba 1 1 6d41 1 1
    6edb 1 1 6ecb 1 1 6f22 1 1 701e 1 1 716e 1 1 77a7 1 1 7235 1 1 72af 1 1 732a 1 1 7471 1 1
    7506 1 1 753b 1 1 761d 1 1 761f 1 1 76ca 1 1 76db 1 1 76f4 1 1 774a 1 1 7740 1 1 78cc 1 1
    7ab1 1 1 7bc0 1 1 7c7b 1 1 7d5b 1 1 7df4 1 1 7f3e 1 1 8005 1 1 8352 1 1 83ef 1 1 8779 1 1
    8941 1 1 8986 1 1 8996 1 1 8abf 1 1 8af8 1 1 8acb 1 1 8b01 1 1 8afe 1 1 8aed 1 1 8b39 1 1
    8b8a 1 1 8d08 1 1 8f38 1 1 9072 1 1 9199 1 1 9276 1 1 967c 1 1 96e3 1 1 9756 1 1 97db 1 1
    97ff 1 1 980b 1 1 983b 1 1 9b12 1 1 9f9c 1 1 2284a 1 1 22844 1 1 233d5 1 1 3b9d 1 1 4018 1
    1 4039 1 1 25249 1 1 25cd0 1 1 27ed3 1 1 9f43 1 1 9f8e 27 2 66 66 1 2 66 69 1 2 66 6c 1 3
    66 66 69 1 3 66 66 6c 1 2 73 74 1 2 73 74 d 2 574 576 1 2 574 565 1 2 574 56b 1 2 57e 576 1
    2 574 56d 6 2 5d9 5b4 2 2 5f2 5b7 1 1 5e2 1 1 5d0 1 1 5d3 1 1 5d4 1 1 5db 1 1 5dc 1 1 5dd 1
    1 5e8 1 1 5ea 1 1 2b 1 2 5e9 5c1 1 2 5e9 5c2 1 3 5e9 5bc 5c1 1 3 5e9 5bc 5c2 1 2 5d0 5b7 1
    2 5d0 5b8 1 2 5d0 5bc 1 2 5d1 5bc 1 2 5d2 5bc 1 2 5d3 5bc 1 2 5d4 5bc 1 2 5d5 5bc 1 2 5d6
    5bc 2 2 5d8 5bc 1 2 5d9 5bc 1 2 5da 5bc 1 2 5db 5bc 1 2 5dc 5bc 2 2 5de 5bc 2 2 5e0 5bc 1 2
    5e1 5bc 2 2 5e3 5bc 1 2 5e4 5bc 2 2 5e6 5bc 1 2 5e7 5bc 1 2 5e8 5bc 1 2 5e9 5bc 1 2 5ea 5bc
    1 2 5d5 5b9 1 2 5d1 5bf 1 2 5db 5bf 1 2 5e4 5bf 1 2 5d0 5dc 1 1 671 1 1 671 1 1 67b 1 1 67b
    1 1 67b 1 1 67b 1 1 67e 1 1 67e 1 1 67e 1 1 67e 1 1 680 1 1 680 1 1 680 1 1 680 1 1 67a 1 1
    67a 1 1 67a 1 1 67a 1 1 67f 1 1 67f 1 1 67f 1 1 67f 1 1 679 1 1 679 1 1 679 1 1 679 1 1 6a4
    1 1 6a4 1 1 6a4 1 1 6a4 1 1 6a6 1 1 6a6 1 1 6a6 1 1 6a6 1 1 684 1 1 684 1 1 684 1 1 684 1 1
    683 1 1 683 1 1 683 1 1 683 1 1 686 1 1 686 1 1 686 1 1 686 1 1 687 1 1 687 1 1 687 1 1 687
    1 1 68d 1 1 68d 1 1 68c 1 1 68c 1 1 68e 1 1 68e 1 1 688 1 1 688 1 1 698 1 1 698 1 1 691 1 1
    691 1 1 6a9 1 1 6a9 1 1 6a9 1 1 6a9 1 1 6af 1 1 6af 1 1 6af 1 1 6af 1 1 6b3 1 1 6b3 1 1 6b3
    1 1 6b3 1 1 6b1 1 1 6b1 1 1 6b1 1 1 6b1 1 1 6ba 1 1 6ba 1 1 6bb 1 1 6bb 1 1 6bb 1 1 6bb 1 2
    6d5 654 1 2 6d5 654 1 1 6c1 1 1 6c1 1 1 6c1 1 1 6c1 1 1 6be 1 1 6be 1 1 6be 1 1 6be 1 1 6d2
    1 1 6d2 1 2 6d2 654 1 2 6d2 654 22 1 6ad 1 1 6ad 1 1 6ad 1 1 6ad 1 1 6c7 1 1 6c7 1 1 6c6 1
    1 6c6 1 1 6c8 1 1 6c8 1 2 6c7 674 1 1 6cb 1 1 6cb 1 1 6c5 1 1 6c5 1 1 6c9 1 1 6c9 1 1 6d0 1
    1 6d0 1 1 6d0 1 1 6d0 1 1 649 1 1 649 1 3 64a 654 627 1 3 64a 654 627 1 3 64a 654 6d5 1 3
    64a 654 6d5 1 3 64a 654 648 1 3 64a 654 648 1 3 64a 654 6c7 1 3 64a 654 6c7 1 3 64a 654 6c6
    1 3 64a 654 6c6 1 3 64a 654 6c8 1 3 64a 654 6c8 1 3 64a 654 6d0 1 3 64a 654 6d0 1 3 64a 654
    6d0 1 3 64a 654 649 1 3 64a 654 649 1 3 64a 654 649 1 1 6cc 1 1 6cc 1 1 6cc 1 1 6cc 1 3 64a
    654 62c 1 3 64a 654 62d 1 3 64a 654 645 1 3 64a 654 649 1 3 64a 654 64a 1 2 628 62c 1 2 628
    62d 1 2 628 62e 1 2 628 645 1 2 628 649 1 2 628 64a 1 2 62a 62c 1 2 62a 62d 1 2 62a 62e 1 2
    62a 645 1 2 62a 649 1 2 62a 64a 1 2 62b 62c 1 2 62b 645 1 2 62b 649 1 2 62b 64a 1 2 62c 62d
    1 2 62c 645 1 2 62d 62c 1 2 62d 645 1 2 62e 62c 1 2 62e 62d 1 2 62e 645 1 2 633 62c 1 2 633
    62d 1 2 633 62e 1 2 633 645 1 2 635 62d 1 2 635 645 1 2 636 62c 1 2 636 62d 1 2 636 62e 1 2
    636 645 1 2 637 62d 1 2 637 645 1 2 638 645 1 2 639 62c 1 2 639 645 1 2 63a 62c 1 2 63a 645
    1 2 641 62c 1 2 641 62d 1 2 641 62e 1 2 641 645 1 2 641 649 1 2 641 64a 1 2 642 62d 1 2 642
    645 1 2 642 649 1 2 642 64a 1 2 643 627 1 2 643 62c 1 2 643 62d 1 2 643 62e 1 2 643 644 1 2
    643 645 1 2 643 649 1 2 643 64a 1 2 644 62c 1 2 644 62d 1 2 644 62e 1 2 644 645 1 2 644 649
    1 2 644 64a 1 2 645 62c 1 2 645 62d 1 2 645 62e 1 2 645 645 1 2 645 649 1 2 645 64a 1 2 646
    62c 1 2 646 62d 1 2 646 62e 1 2 646 645 1 2 646 649 1 2 646 64a 1 2 647 62c 1 2 647 645 1 2
    647 649 1 2 647 64a 1 2 64a 62c 1 2 64a 62d 1 2 64a 62e 1 2 64a 645 1 2 64a 649 1 2 64a 64a
    1 2 630 670 1 2 631 670 1 2 649 670 1 3 20 64c 651 1 3 20 64d 651 1 3 20 64e 651 1 3 20 64f
    651 1 3 20 650 651 1 3 20 651 670 1 3 64a 654 631 1 3 64a 654 632 1 3 64a 654 645 1 3 64a
    654 646 1 3 64a 654 649 1 3 64a 654 64a 1 2 628 631 1 2 628 632 1 2 628 645 1 2 628 646 1 2
    628 649 1 2 628 64a 1 2 62a 631 1 2 62a 632 1 2 62a 645 1 2 62a 646 1 2 62a 649 1 2 62a 64a
    1 2 62b 631 1 2 62b 632 1 2 62b 645 1 2 62b 646 1 2 62b 649 1 2 62b 64a 1 2 641 649 1 2 641
    64a 1 2 642 649 1 2 642 64a 1 2 643 627 1 2 643 644 1 2 643 645 1 2 643 649 1 2 643 64a 1 2
    644 645 1 2 644 649 1 2 644 64a 1 2 645 627 1 2 645 645 1 2 646 631 1 2 646 632 1 2 646 645
    1 2 646 646 1 2 646 649 1 2 646 64a 1 2 649 670 1 2 64a 631 1 2 64a 632 1 2 64a 645 1 2 64a
    646 1 2 64a 649 1 2 64a 64a 1 3 64a 654 62c 1 3 64a 654 62d 1 3 64a 654 62e 1 3 64a 654 645
    1 3 64a 654 647 1 2 628 62c 1 2 628 62d 1 2 628 62e 1 2 628 645 1 2 628 647 1 2 62a 62c 1 2
    62a 62d 1 2 62a 62e 1 2 62a 645 1 2 62a 647 1 2 62b 645 1 2 62c 62d 1 2 62c 645 1 2 62d 62c
    1 2 62d 645 1 2 62e 62c 1 2 62e 645 1 2 633 62c 1 2 633 62d 1 2 633 62e 1 2 633 645 1 2 635
    62d 1 2 635 62e 1 2 635 645 1 2 636 62c 1 2 636 62d 1 2 636 62e 1 2 636 645 1 2 637 62d 1 2
    638 645 1 2 639 62c 1 2 639 645 1 2 63a 62c 1 2 63a 645 1 2 641 62c 1 2 641 62d 1 2 641 62e
    1 2 641 645 1 2 642 62d 1 2 642 645 1 2 643 62c 1 2 643 62d 1 2 643 62e 1 2 643 644 1 2 643
    645 1 2 644 62c 1 2 644 62d 1 2 644 62e 1 2 644 645 1 2 644 647 1 2 645 62c 1 2 645 62d 1 2
    645 62e 1 2 645 645 1 2 646 62c 1 2 646 62d 1 2 646 62e 1 2 646 645 1 2 646 647 1 2 647 62c
    1 2 647 645 1 2 647 670 1 2 64a 62c 1 2 64a 62d 1 2 64a 62e 1 2 64a 645 1 2 64a 647 1 3 64a
    654 645 1 3 64a 654 647 1 2 628 645 1 2 628 647 1 2 62a 645 1 2 62a 647 1 2 62b 645 1 2 62b
    647 1 2 633 645 1 2 633 647 1 2 634 645 1 2 634 647 1 2 643 644 1 2 643 645 1 2 644 645 1 2
    646 645 1 2 646 647 1 2 64a 645 1 2 64a 647 1 3 640 64e 651 1 3 640 64f 651 1 3 640 650 651
    1 2 637 649 1 2 637 64a 1 2 639 649 1 2 639 64a 1 2 63a 649 1 2 63a 64a 1 2 633 649 1 2 633
    64a 1 2 634 649 1 2 634 64a 1 2 62d 649 1 2 62d 64a 1 2 62c 649 1 2 62c 64a 1 2 62e 649 1 2
    62e 64a 1 2 635 649 1 2 635 64a 1 2 636 649 1 2 636 64a 1 2 634 62c 1 2 634 62d 1 2 634 62e
    1 2 634 645 1 2 634 631 1 2 633 631 1 2 635 631 1 2 636 631 1 2 637 649 1 2 637 64a 1 2 639
    649 1 2 639 64a 1 2 63a 649 1 2 63a 64a 1 2 633 649 1 2 633 64a 1 2 634 649 1 2 634 64a 1 2
    62d 649 1 2 62d 64a 1 2 62c 649 1 2 62c 64a 1 2 62e 649 1 2 62e 64a 1 2 635 649 1 2 635 64a
    1 2 636 649 1 2 636 64a 1 2 634 62c 1 2 634 62d 1 2 634 62e 1 2 634 645 1 2 634 631 1 2 633
    631 1 2 635 631 1 2 636 631 1 2 634 62c 1 2 634 62d 1 2 634 62e 1 2 634 645 1 2 633 647 1 2
    634 647 1 2 637 645 1 2 633 62c 1 2 633 62d 1 2 633 62e 1 2 634 62c 1 2 634 62d 1 2 634 62e
    1 2 637 645 1 2 638 645 1 2 627 64b 1 2 627 64b 13 3 62a 62c 645 1 3 62a 62d 62c 1 3 62a
    62d 62c 1 3 62a 62d 645 1 3 62a 62e 645 1 3 62a 645 62c 1 3 62a 645 62d 1 3 62a 645 62e 1 3
    62c 645 62d 1 3 62c 645 62d 1 3 62d 645 64a 1 3 62d 645 649 1 3 633 62d 62c 1 3 633 62c 62d
    1 3 633 62c 649 1 3 633 645 62d 1 3 633 645 62d 1 3 633 645 62c 1 3 633 645 645 1 3 633 645
    645 1 3 635 62d 62d 1 3 635 62d 62d 1 3 635 645 645 1 3 634 62d 645 1 3 634 62d 645 1 3 634
    62c 64a 1 3 634 645 62e 1 3 634 645 62e 1 3 634 645 645 1 3 634 645 645 1 3 636 62d 649 1 3
    636 62e 645 1 3 636 62e 645 1 3 637 645 62d 1 3 637 645 62d 1 3 637 645 645 1 3 637 645 64a
    1 3 639 62c 645 1 3 639 645 645 1 3 639 645 645 1 3 639 645 649 1 3 63a 645 645 1 3 63a 645
    64a 1 3 63a 645 649 1 3 641 62e 645 1 3 641 62e 645 1 3 642 645 62d 1 3 642 645 645 1 3 644
    62d 645 1 3 644 62d 64a 1 3 644 62d 649 1 3 644 62c 62c 1 3 644 62c 62c 1 3 644 62e 645 1 3
    644 62e 645 1 3 644 645 62d 1 3 644 645 62d 1 3 645 62d 62c 1 3 645 62d 645 1 3 645 62d 64a
    1 3 645 62c 62d 1 3 645 62c 645 1 3 645 62e 62c 1 3 645 62e 645 3 3 645 62c 62e 1 3 647 645
    62c 1 3 647 645 645 1 3 646 62d 645 1 3 646 62d 649 1 3 646 62c 645 1 3 646 62c 645 1 3 646
    62c 649 1 3 646 645 64a 1 3 646 645 649 1 3 64a 645 645 1 3 64a 645 645 1 3 628 62e 64a 1 3
    62a 62c 64a 1 3 62a 62c 649 1 3 62a 62e 64a 1 3 62a 62e 649 1 3 62a 645 64a 1 3 62a 645 649
    1 3 62c 645 64a 1 3 62c 62d 649 1 3 62c 645 649 1 3 633 62e 649 1 3 635 62d 64a 1 3 634 62d
    64a 1 3 636 62d 64a 1 3 644 62c 64a 1 3 644 645 64a 1 3 64a 62d 64a 1 3 64a 62c 64a 1 3 64a
    645 64a 1 3 645 645 64a 1 3 642 645 64a 1 3 646 62d 64a 1 3 642 645 62d 1 3 644 62d 645 1 3
    639 645 64a 1 3 643 645 64a 1 3 646 62c 62d 1 3 645 62e 64a 1 3 644 62c 645 1 3 643 645 645
    1 3 644 62c 645 1 3 646 62c 62d 1 3 62c 62d 64a 1 3 62d 62c 64a 1 3 645 62c 64a 1 3 641 645
    64a 1 3 628 62d 64a 1 3 643 645 645 1 3 639 62c 645 1 3 635 645 645 1 3 633 62e 64a 1 3 646
    62c 64a 29 3 635 644 6d2 1 3 642 644 6d2 1 4 627 644 644 647 1 4 627 643 628 631 1 4 645
    62d 645 62f 1 4 635 644 639 645 1 4 631 633 648 644 1 4 639 644 64a 647 1 4 648 633 644 645
    1 3 635 644 649 1 12 635 644 649 20 627 644 644 647 20 639 644 64a 647 20 648 633 644 645 1
    8 62c 644 20 62c 644 627 644 647 1 4 631 6cc 627 644 14 1 2c 1 1 3001 1 1 3002 1 1 3a 1 1
    3b 1 1 21 1 1 3f 1 1 3016 1 1 3017 1 3 2e 2e 2e 17 2 2e 2e 1 1 2014 1 1 2013 1 1 5f 1 1 5f
    1 1 28 1 1 29 1 1 7b 1 1 7d 1 1 3014 1 1 3015 1 1 3010 1 1 3011 1 1 300a 1 1 300b 1 1 3008
    1 1 3009 1 1 300c 1 1 300d 1 1 300e 1 1 300f 3 1 5b 1 1 5d 1 2 20 305 1 2 20 305 1 2 20 305
    1 2 20 305 1 1 5f 1 1 5f 1 1 5f 1 1 2c 1 1 3001 1 1 2e 2 1 3b 1 1 3a 1 1 3f 1 1 21 1 1 2014
    1 1 28 1 1 29 1 1 7b 1 1 7d 1 1 3014 1 1 3015 1 1 23 1 1 26 1 1 2a 1 1 2b 1 1 2d 1 1 3c 1 1
    3e 1 1 3d 2 1 5c 1 1 24 1 1 25 1 1 40 5 2 20 64b 1 2 640 64b 1 2 20 64c 2 2 20 64d 2 2 20
    64e 1 2 640 64e 1 2 20 64f 1 2 640 64f 1 2 20 650 1 2 640 650 1 2 20 651 1 2 640 651 1 2 20
    652 1 2 640 652 1 1 621 1 2 627 653 1 2 627 653 1 2 627 654 1 2 627 654 1 2 648 654 1 2 648
    654 1 2 627 655 1 2 627 655 1 2 64a 654 1 2 64a 654 1 2 64a 654 1 2 64a 654 1 1 627 1 1 627
    1 1 628 1 1 628 1 1 628 1 1 628 1 1 629 1 1 629 1 1 62a 1 1 62a 1 1 62a 1 1 62a 1 1 62b 1 1
    62b 1 1 62b 1 1 62b 1 1 62c 1 1 62c 1 1 62c 1 1 62c 1 1 62d 1 1 62d 1 1 62d 1 1 62d 1 1 62e
    1 1 62e 1 1 62e 1 1 62e 1 1 62f 1 1 62f 1 1 630 1 1 630 1 1 631 1 1 631 1 1 632 1 1 632 1 1
    633 1 1 633 1 1 633 1 1 633 1 1 634 1 1 634 1 1 634 1 1 634 1 1 635 1 1 635 1 1 635 1 1 635
    1 1 636 1 1 636 1 1 636 1 1 636 1 1 637 1 1 637 1 1 637 1 1 637 1 1 638 1 1 638 1 1 638 1 1
    638 1 1 639 1 1 639 1 1 639 1 1 639 1 1 63a 1 1 63a 1 1 63a 1 1 63a 1 1 641 1 1 641 1 1 641
    1 1 641 1 1 642 1 1 642 1 1 642 1 1 642 1 1 643 1 1 643 1 1 643 1 1 643 1 1 644 1 1 644 1 1
    644 1 1 644 1 1 645 1 1 645 1 1 645 1 1 645 1 1 646 1 1 646 1 1 646 1 1 646 1 1 647 1 1 647
    1 1 647 1 1 647 1 1 648 1 1 648 1 1 649 1 1 649 1 1 64a 1 1 64a 1 1 64a 1 1 64a 1 3 644 627
    653 1 3 644 627 653 1 3 644 627 654 1 3 644 627 654 1 3 644 627 655 1 3 644 627 655 1 2 644
    627 1 2 644 627 5 1 21 1 1 22 1 1 23 1 1 24 1 1 25 1 1 26 1 1 27 1 1 28 1 1 29 1 1 2a 1 1
    2b 1 1 2c 1 1 2d 1 1 2e 1 1 2f 1 1 30 1 1 31 1 1 32 1 1 33 1 1 34 1 1 35 1 1 36 1 1 37 1 1
    38 1 1 39 1 1 3a 1 1 3b 1 1 3c 1 1 3d 1 1 3e 1 1 3f 1 1 40 1 1 41 1 1 42 1 1 43 1 1 44 1 1
    45 1 1 46 1 1 47 1 1 48 1 1 49 1 1 4a 1 1 4b 1 1 4c 1 1 4d 1 1 4e 1 1 4f 1 1 50 1 1 51 1 1
    52 1 1 53 1 1 54 1 1 55 1 1 56 1 1 57 1 1 58 1 1 59 1 1 5a 1 1 5b 1 1 5c 1 1 5d 1 1 5e 1 1
    5f 1 1 60 1 1 61 1 1 62 1 1 63 1 1 64 1 1 65 1 1 66 1 1 67 1 1 68 1 1 69 1 1 6a 1 1 6b 1 1
    6c 1 1 6d 1 1 6e 1 1 6f 1 1 70 1 1 71 1 1 72 1 1 73 1 1 74 1 1 75 1 1 76 1 1 77 1 1 78 1 1
    79 1 1 7a 1 1 7b 1 1 7c 1 1 7d 1 1 7e 1 1 2985 1 1 2986 1 1 3002 1 1 300c 1 1 300d 1 1 3001
    1 1 30fb 1 1 30f2 1 1 30a1 1 1 30a3 1 1 30a5 1 1 30a7 1 1 30a9 1 1 30e3 1 1 30e5 1 1 30e7 1
    1 30c3 1 1 30fc 1 1 30a2 1 1 30a4 1 1 30a6 1 1 30a8 1 1 30aa 1 1 30ab 1 1 30ad 1 1 30af 1 1
    30b1 1 1 30b3 1 1 30b5 1 1 30b7 1 1 30b9 1 1 30bb 1 1 30bd 1 1 30bf 1 1 30c1 1 1 30c4 1 1
    30c6 1 1 30c8 1 1 30ca 1 1 30cb 1 1 30cc 1 1 30cd 1 1 30ce 1 1 30cf 1 1 30d2 1 1 30d5 1 1
    30d8 1 1 30db 1 1 30de 1 1 30df 1 1 30e0 1 1 30e1 1 1 30e2 1 1 30e4 1 1 30e6 1 1 30e8 1 1
    30e9 1 1 30ea 1 1 30eb 1 1 30ec 1 1 30ed 1 1 30ef 1 1 30f3 1 1 3099 1 1 309a 1 1 1160 1 1
    1100 1 1 1101 1 1 11aa 1 1 1102 1 1 11ac 1 1 11ad 1 1 1103 1 1 1104 1 1 1105 1 1 11b0 1 1
    11b1 1 1 11b2 1 1 11b3 1 1 11b4 1 1 11b5 1 1 111a 1 1 1106 1 1 1107 1 1 1108 1 1 1121 1 1
    1109 1 1 110a 1 1 110b 1 1 110c 1 1 110d 1 1 110e 1 1 110f 1 1 1110 1 1 1111 1 1 1112 4 1
    1161 1 1 1162 1 1 1163 1 1 1164 1 1 1165 1 1 1166 3 1 1167 1 1 1168 1 1 1169 1 1 116a 1 1
    116b 1 1 116c 3 1 116d 1 1 116e 1 1 116f 1 1 1170 1 1 1171 1 1 1172 3 1 1173 1 1 1174 1 1
    1175 4 1 a2 1 1 a3 1 1 ac 1 2 20 304 1 1 a6 1 1 a5 1 1 20a9 2 1 2502 1 1 2190 1 1 2191 1 1
    2192 1 1 2193 1 1 25a0 1 1 25cb 793 1 2d0 1 1 2d1 1 1 e6 1 1 299 1 1 253 2 1 2a3 1 1 ab66 1
    1 2a5 1 1 2a4 1 1 256 1 1 257 1 1 1d91 1 1 258 1 1 25e 1 1 2a9 1 1 264 1 1 262 1 1 260 1 1
    29b 1 1 127 1 1 29c 1 1 267 1 1 284 1 1 2aa 1 1 2ab 1 1 26c 1 1 1df04 1 1 a78e 1 1 26e 1 1
    1df05 1 1 28e 1 1 1df06 1 1 f8 1 1 276 1 1 277 1 1 71 1 1 27a 1 1 1df08 1 1 27d 1 1 27e 1 1
    280 1 1 2a8 1 1 2a6 1 1 ab67 1 1 2a7 1 1 288 1 1 2c71 2 1 28f 1 1 2a1 1 1 2a2 1 1 298 1 1
    1c0 1 1 1c1 1 1 1c2 1 1 1df0a 1 1 1df1e 8e0 2 11099 110ba 2 2 1109b 110ba f 2 110a5 110ba
    83 2 11131 11127 1 2 11132 11127 21c 2 11347 1133e 1 2 11347 11357 16f 2 114b9 114ba 1 2
    114b9 114b0 2 2 114b9 114bd fc 2 115b8 115af 1 2 115b9 115af 37d 2 11935 11930 b826 2 1d157
    1d165 1 2 1d158 1d165 1 3 1d158 1d165 1d16e 1 3 1d158 1d165 1d16f 1 3 1d158 1d165 1d170 1 3
    1d158 1d165 1d171 1 3 1d158 1d165 1d172 57 2 1d1b9 1d165 1 2 1d1ba 1d165 1 3 1d1b9 1d165
    1d16e 1 3 1d1ba 1d165 1d16e 1 3 1d1b9 1d165 1d16f 1 3 1d1ba 1d165 1d16f 240 1 41 1 1 42 1 1
    43 1 1 44 1 1 45 1 1 46 1 1 47 1 1 48 1 1 49 1 1 4a 1 1 4b 1 1 4c 1 1 4d 1 1 4e 1 1 4f 1 1
    50 1 1 51 1 1 52 1 1 53 1 1 54 1 1 55 1 1 56 1 1 57 1 1 58 1 1 59 1 1 5a 1 1 61 1 1 62 1 1
    63 1 1 64 1 1 65 1 1 66 1 1 67 1 1 68 1 1 69 1 1 6a 1 1 6b 1 1 6c 1 1 6d 1 1 6e 1 1 6f 1 1
    70 1 1 71 1 1 72 1 1 73 1 1 74 1 1 75 1 1 76 1 1 77 1 1 78 1 1 79 1 1 7a 1 1 41 1 1 42 1 1
    43 1 1 44 1 1 45 1 1 46 1 1 47 1 1 48 1 1 49 1 1 4a 1 1 4b 1 1 4c 1 1 4d 1 1 4e 1 1 4f 1 1
    50 1 1 51 1 1 52 1 1 53 1 1 54 1 1 55 1 1 56 1 1 57 1 1 58 1 1 59 1 1 5a 1 1 61 1 1 62 1 1
    63 1 1 64 1 1 65 1 1 66 1 1 67 2 1 69 1 1 6a 1 1 6b 1 1 6c 1 1 6d 1 1 6e 1 1 6f 1 1 70 1 1
    71 1 1 72 1 1 73 1 1 74 1 1 75 1 1 76 1 1 77 1 1 78 1 1 79 1 1 7a 1 1 41 1 1 42 1 1 43 1 1
    44 1 1 45 1 1 46 1 1 47 1 1 48 1 1 49 1 1 4a 1 1 4b 1 1 4c 1 1 4d 1 1 4e 1 1 4f 1 1 50 1 1
    51 1 1 52 1 1 53 1 1 54 1 1 55 1 1 56 1 1 57 1 1 58 1 1 59 1 1 5a 1 1 61 1 1 62 1 1 63 1 1
    64 1 1 65 1 1 66 1 1 67 1 1 68 1 1 69 1 1 6a 1 1 6b 1 1 6c 1 1 6d 1 1 6e 1 1 6f 1 1 70 1 1
    71 1 1 72 1 1 73 1 1 74 1 1 75 1 1 76 1 1 77 1 1 78 1 1 79 1 1 7a 1 1 41 2 1 43 1 1 44 3 1
    47 3 1 4a 1 1 4b 3 1 4e 1 1 4f 1 1 50 1 1 51 2 1 53 1 1 54 1 1 55 1 1 56 1 1 57 1 1 58 1 1
    59 1 1 5a 1 1 61 1 1 62 1 1 63 1 1 64 2 1 66 2 1 68 1 1 69 1 1 6a 1 1 6b 1 1 6c 1 1 6d 1 1
    6e 2 1 70 1 1 71 1 1 72 1 1 73 1 1 74 1 1 75 1 1 76 1 1 77 1 1 78 1 1 79 1 1 7a 1 1 41 1 1
    42 1 1 43 1 1 44 1 1 45 1 1 46 1 1 47 1 1 48 1 1 49 1 1 4a 1 1 4b 1 1 4c 1 1 4d 1 1 4e 1 1
    4f 1 1 50 1 1 51 1 1 52 1 1 53 1 1 54 1 1 55 1 1 56 1 1 57 1 1 58 1 1 59 1 1 5a 1 1 61 1 1
    62 1 1 63 1 1 64 1 1 65 1 1 66 1 1 67 1 1 68 1 1 69 1 1 6a 1 1 6b 1 1 6c 1 1 6d 1 1 6e 1 1
    6f 1 1 70 1 1 71 1 1 72 1 1 73 1 1 74 1 1 75 1 1 76 1 1 77 1 1 78 1 1 79 1 1 7a 1 1 41 1 1
    42 2 1 44 1 1 45 1 1 46 1 1 47 3 1 4a 1 1 4b 1 1 4c 1 1 4d 1 1 4e 1 1 4f 1 1 50 1 1 51 2 1
    53 1 1 54 1 1 55 1 1 56 1 1 57 1 1 58 1 1 59 2 1 61 1 1 62 1 1 63 1 1 64 1 1 65 1 1 66 1 1
    67 1 1 68 1 1 69 1 1 6a 1 1 6b 1 1 6c 1 1 6d 1 1 6e 1 1 6f 1 1 70 1 1 71 1 1 72 1 1 73 1 1
    74 1 1 75 1 1 76 1 1 77 1 1 78 1 1 79 1 1 7a 1 1 41 1 1 42 2 1 44 1 1 45 1 1 46 1 1 47 2 1
    49 1 1 4a 1 1 4b 1 1 4c 1 1 4d 2 1 4f 4 1 53 1 1 54 1 1 55 1 1 56 1 1 57 1 1 58 1 1 59 2 1
    61 1 1 62 1 1 63 1 1 64 1 1 65 1 1 66 1 1 67 1 1 68 1 1 69 1 1 6a 1 1 6b 1 1 6c 1 1 6d 1 1
    6e 1 1 6f 1 1 70 1 1 71 1 1 72 1 1 73 1 1 74 1 1 75 1 1 76 1 1 77 1 1 78 1 1 79 1 1 7a 1 1
    41 1 1 42 1 1 43 1 1 44 1 1 45 1 1 46 1 1 47 1 1 48 1 1 49 1 1 4a 1 1 4b 1 1 4c 1 1 4d 1 1
    4e 1 1 4f 1 1 50 1 1 51 1 1 52 1 1 53 1 1 54 1 1 55 1 1 56 1 1 57 1 1 58 1 1 59 1 1 5a 1 1
    61 1 1 62 1 1 63 1 1 64 1 1 65 1 1 66 1 1 67 1 1 68 1 1 69 1 1 6a 1 1 6b 1 1 6c 1 1 6d 1 1
    6e 1 1 6f 1 1 70 1 1 71 1 1 72 1 1 73 1 1 74 1 1 75 1 1 76 1 1 77 1 1 78 1 1 79 1 1 7a 1 1
    41 1 1 42 1 1 43 1 1 44 1 1 45 1 1 46 1 1 47 1 1 48 1 1 49 1 1 4a 1 1 4b 1 1 4c 1 1 4d 1 1
    4e 1 1 4f 1 1 50 1 1 51 1 1 52 1 1 53 1 1 54 1 1 55 1 1 56 1 1 57 1 1 58 1 1 59 1 1 5a 1 1
    61 1 1 62 1 1 63 1 1 64 1 1 65 1 1 66 1 1 67 1 1 68 1 1 69 1 1 6a 1 1 6b 1 1 6c 1 1 6d 1 1
    6e 1 1 6f 1 1 70 1 1 71 1 1 72 1 1 73 1 1 74 1 1 75 1 1 76 1 1 77 1 1 78 1 1 79 1 1 7a 1 1
    41 1 1 42 1 1 43 1 1 44 1 1 45 1 1 46 1 1 47 1 1 48 1 1 49 1 1 4a 1 1 4b 1 1 4c 1 1 4d 1 1
    4e 1 1 4f 1 1 50 1 1 51 1 1 52 1 1 53 1 1 54 1 1 55 1 1 56 1 1 57 1 1 58 1 1 59 1 1 5a 1 1
    61 1 1 62 1 1 63 1 1 64 1 1 65 1 1 66 1 1 67 1 1 68 1 1 69 1 1 6a 1 1 6b 1 1 6c 1 1 6d 1 1
    6e 1 1 6f 1 1 70 1 1 71 1 1 72 1 1 73 1 1 74 1 1 75 1 1 76 1 1 77 1 1 78 1 1 79 1 1 7a 1 1
    41 1 1 42 1 1 43 1 1 44 1 1 45 1 1 46 1 1 47 1 1 48 1 1 49 1 1 4a 1 1 4b 1 1 4c 1 1 4d 1 1
    4e 1 1 4f 1 1 50 1 1 51 1 1 52 1 1 53 1 1 54 1 1 55 1 1 56 1 1 57 1 1 58 1 1 59 1 1 5a 1 1
    61 1 1 62 1 1 63 1 1 64 1 1 65 1 1 66 1 1 67 1 1 68 1 1 69 1 1 6a 1 1 6b 1 1 6c 1 1 6d 1 1
    6e 1 1 6f 1 1 70 1 1 71 1 1 72 1 1 73 1 1 74 1 1 75 1 1 76 1 1 77 1 1 78 1 1 79 1 1 7a 1 1
    41 1 1 42 1 1 43 1 1 44 1 1 45 1 1 46 1 1 47 1 1 48 1 1 49 1 1 4a 1 1 4b 1 1 4c 1 1 4d 1 1
    4e 1 1 4f 1 1 50 1 1 51 1 1 52 1 1 53 1 1 54 1 1 55 1 1 56 1 1 57 1 1 58 1 1 59 1 1 5a 1 1
    61 1 1 62 1 1 63 1 1 64 1 1 65 1 1 66 1 1 67 1 1 68 1 1 69 1 1 6a 1 1 6b 1 1 6c 1 1 6d 1 1
    6e 1 1 6f 1 1 70 1 1 71 1 1 72 1 1 73 1 1 74 1 1 75 1 1 76 1 1 77 1 1 78 1 1 79 1 1 7a 1 1
    41 1 1 42 1 1 43 1 1 44 1 1 45 1 1 46 1 1 47 1 1 48 1 1 49 1 1 4a 1 1 4b 1 1 4c 1 1 4d 1 1
    4e 1 1 4f 1 1 50 1 1 51 1 1 52 1 1 53 1 1 54 1 1 55 1 1 56 1 1 57 1 1 58 1 1 59 1 1 5a 1 1
    61 1 1 62 1 1 63 1 1 64 1 1 65 1 1 66 1 1 67 1 1 68 1 1 69 1 1 6a 1 1 6b 1 1 6c 1 1 6d 1 1
    6e 1 1 6f 1 1 70 1 1 71 1 1 72 1 1 73 1 1 74 1 1 75 1 1 76 1 1 77 1 1 78 1 1 79 1 1 7a 1 1
    131 1 1 237 3 1 391 1 1 392 1 1 393 1 1 394 1 1 395 1 1 396 1 1 397 1 1 398 1 1 399 1 1 39a
    1 1 39b 1 1 39c 1 1 39d 1 1 39e 1 1 39f 1 1 3a0 1 1 3a1 1 1 398 1 1 3a3 1 1 3a4 1 1 3a5 1 1
    3a6 1 1 3a7 1 1 3a8 1 1 3a9 1 1 2207 1 1 3b1 1 1 3b2 1 1 3b3 1 1 3b4 1 1 3b5 1 1 3b6 1 1
    3b7 1 1 3b8 1 1 3b9 1 1 3ba 1 1 3bb 1 1 3bc 1 1 3bd 1 1 3be 1 1 3bf 1 1 3c0 1 1 3c1 1 1 3c2
    1 1 3c3 1 1 3c4 1 1 3c5 1 1 3c6 1 1 3c7 1 1 3c8 1 1 3c9 1 1 2202 1 1 3b5 1 1 3b8 1 1 3ba 1
    1 3c6 1 1 3c1 1 1 3c0 1 1 391 1 1 392 1 1 393 1 1 394 1 1 395 1 1 396 1 1 397 1 1 398 1 1
    399 1 1 39a 1 1 39b 1 1 39c 1 1 39d 1 1 39e 1 1 39f 1 1 3a0 1 1 3a1 1 1 398 1 1 3a3 1 1 3a4
    1 1 3a5 1 1 3a6 1 1 3a7 1 1 3a8 1 1 3a9 1 1 2207 1 1 3b1 1 1 3b2 1 1 3b3 1 1 3b4 1 1 3b5 1
    1 3b6 1 1 3b7 1 1 3b8 1 1 3b9 1 1 3ba 1 1 3bb 1 1 3bc 1 1 3bd 1 1 3be 1 1 3bf 1 1 3c0 1 1
    3c1 1 1 3c2 1 1 3c3 1 1 3c4 1 1 3c5 1 1 3c6 1 1 3c7 1 1 3c8 1 1 3c9 1 1 2202 1 1 3b5 1 1
    3b8 1 1 3ba 1 1 3c6 1 1 3c1 1 1 3c0 1 1 391 1 1 392 1 1 393 1 1 394 1 1 395 1 1 396 1 1 397
    1 1 398 1 1 399 1 1 39a 1 1 39b 1 1 39c 1 1 39d 1 1 39e 1 1 39f 1 1 3a0 1 1 3a1 1 1 398 1 1
    3a3 1 1 3a4 1 1 3a5 1 1 3a6 1 1 3a7 1 1 3a8 1 1 3a9 1 1 2207 1 1 3b1 1 1 3b2 1 1 3b3 1 1
    3b4 1 1 3b5 1 1 3b6 1 1 3b7 1 1 3b8 1 1 3b9 1 1 3ba 1 1 3bb 1 1 3bc 1 1 3bd 1 1 3be 1 1 3bf
    1 1 3c0 1 1 3c1 1 1 3c2 1 1 3c3 1 1 3c4 1 1 3c5 1 1 3c6 1 1 3c7 1 1 3c8 1 1 3c9 1 1 2202 1
    1 3b5 1 1 3b8 1 1 3ba 1 1 3c6 1 1 3c1 1 1 3c0 1 1 391 1 1 392 1 1 393 1 1 394 1 1 395 1 1
    396 1 1 397 1 1 398 1 1 399 1 1 39a 1 1 39b 1 1 39c 1 1 39d 1 1 39e 1 1 39f 1 1 3a0 1 1 3a1
    1 1 398 1 1 3a3 1 1 3a4 1 1 3a5 1 1 3a6 1 1 3a7 1 1 3a8 1 1 3a9 1 1 2207 1 1 3b1 1 1 3b2 1
    1 3b3 1 1 3b4 1 1 3b5 1 1 3b6 1 1 3b7 1 1 3b8 1 1 3b9 1 1 3ba 1 1 3bb 1 1 3bc 1 1 3bd 1 1
    3be 1 1 3bf 1 1 3c0 1 1 3c1 1 1 3c2 1 1 3c3 1 1 3c4 1 1 3c5 1 1 3c6 1 1 3c7 1 1 3c8 1 1 3c9
    1 1 2202 1 1 3b5 1 1 3b8 1 1 3ba 1 1 3c6 1 1 3c1 1 1 3c0 1 1 391 1 1 392 1 1 393 1 1 394 1
    1 395 1 1 396 1 1 397 1 1 398 1 1 399 1 1 39a 1 1 39b 1 1 39c 1 1 39d 1 1 39e 1 1 39f 1 1
    3a0 1 1 3a1 1 1 398 1 1 3a3 1 1 3a4 1 1 3a5 1 1 3a6 1 1 3a7 1 1 3a8 1 1 3a9 1 1 2207 1 1
    3b1 1 1 3b2 1 1 3b3 1 1 3b4 1 1 3b5 1 1 3b6 1 1 3b7 1 1 3b8 1 1 3b9 1 1 3ba 1 1 3bb 1 1 3bc
    1 1 3bd 1 1 3be 1 1 3bf 1 1 3c0 1 1 3c1 1 1 3c2 1 1 3c3 1 1 3c4 1 1 3c5 1 1 3c6 1 1 3c7 1 1
    3c8 1 1 3c9 1 1 2202 1 1 3b5 1 1 3b8 1 1 3ba 1 1 3c6 1 1 3c1 1 1 3c0 1 1 3dc 1 1 3dd 3 1 30
    1 1 31 1 1 32 1 1 33 1 1 34 1 1 35 1 1 36 1 1 37 1 1 38 1 1 39 1 1 30 1 1 31 1 1 32 1 1 33
    1 1 34 1 1 35 1 1 36 1 1 37 1 1 38 1 1 39 1 1 30 1 1 31 1 1 32 1 1 33 1 1 34 1 1 35 1 1 36
    1 1 37 1 1 38 1 1 39 1 1 30 1 1 31 1 1 32 1 1 33 1 1 34 1 1 35 1 1 36 1 1 37 1 1 38 1 1 39
    1 1 30 1 1 31 1 1 32 1 1 33 1 1 34 1 1 35 1 1 36 1 1 37 1 1 38 1 1 39 1601 1 627 1 1 628 1
    1 62c 1 1 62f 2 1 648 1 1 632 1 1 62d 1 1 637 1 1 64a 1 1 643 1 1 644 1 1 645 1 1 646 1 1
    633 1 1 639 1 1 641 1 1 635 1 1 642 1 1 631 1 1 634 1 1 62a 1 1 62b 1 1 62e 1 1 630 1 1 636
    1 1 638 1 1 63a 1 1 66e 1 1 6ba 1 1 6a1 1 1 66f 2 1 628 1 1 62c 2 1 647 3 1 62d 2 1 64a 1 1
    643 1 1 644 1 1 645 1 1 646 1 1 633 1 1 639 1 1 641 1 1 635 1 1 642 2 1 634 1 1 62a 1 1 62b
    1 1 62e 2 1 636 2 1 63a 7 1 62c 5 1 62d 2 1 64a 2 1 644 2 1 646 1 1 633 1 1 639 2 1 635 1 1
    642 2 1 634 3 1 62e 2 1 636 2 1 63a 2 1 6ba 2 1 66f 2 1 628 1 1 62c 2 1 647 3 1 62d 1 1 637
    1 1 64a 1 1 643 2 1 645 1 1 646 1 1 633 1 1 639 1 1 641 1 1 635 1 1 642 2 1 634 1 1 62a 1 1
    62b 1 1 62e 2 1 636 1 1 638 1 1 63a 1 1 66e 2 1 6a1 2 1 627 1 1 628 1 1 62c 1 1 62f 1 1 647
    1 1 648 1 1 632 1 1 62d 1 1 637 1 1 64a 2 1 644 1 1 645 1 1 646 1 1 633 1 1 639 1 1 641 1 1
    635 1 1 642 1 1 631 1 1 634 1 1 62a 1 1 62b 1 1 62e 1 1 630 1 1 636 1 1 638 1 1 63a 6 1 628
    1 1 62c 1 1 62f 2 1 648 1 1 632 1 1 62d 1 1 637 1 1 64a 2 1 644 1 1 645 1 1 646 1 1 633 1 1
    639 1 1 641 1 1 635 1 1 642 1 1 631 1 1 634 1 1 62a 1 1 62b 1 1 62e 1 1 630 1 1 636 1 1 638
    1 1 63a 245 2 30 2e 1 2 30 2c 1 2 31 2c 1 2 32 2c 1 2 33 2c 1 2 34 2c 1 2 35 2c 1 2 36 2c 1
    2 37 2c 1 2 38 2c 1 2 39 2c 6 3 28 41 29 1 3 28 42 29 1 3 28 43 29 1 3 28 44 29 1 3 28 45
    29 1 3 28 46 29 1 3 28 47 29 1 3 28 48 29 1 3 28 49 29 1 3 28 4a 29 1 3 28 4b 29 1 3 28 4c
    29 1 3 28 4d 29 1 3 28 4e 29 1 3 28 4f 29 1 3 28 50 29 1 3 28 51 29 1 3 28 52 29 1 3 28 53
    29 1 3 28 54 29 1 3 28 55 29 1 3 28 56 29 1 3 28 57 29 1 3 28 58 29 1 3 28 59 29 1 3 28 5a
    29 1 3 3014 53 3015 1 1 43 1 1 52 1 2 43 44 1 2 57 5a 2 1 41 1 1 42 1 1 43 1 1 44 1 1 45 1
    1 46 1 1 47 1 1 48 1 1 49 1 1 4a 1 1 4b 1 1 4c 1 1 4d 1 1 4e 1 1 4f 1 1 50 1 1 51 1 1 52 1
    1 53 1 1 54 1 1 55 1 1 56 1 1 57 1 1 58 1 1 59 1 1 5a 1 2 48 56 1 2 4d 56 1 2 53 44 1 2 53
    53 1 3 50 50 56 1 2 57 43 1b 2 4d 43 1 2 4d 44 1 2 4d 52 24 2 44 4a 70 2 307b 304b 1 2 30b3
    30b3 1 1 30b5 e 1 624b 1 1 5b57 1 1 53cc 1 2 30c6 3099 1 1 4e8c 1 1 591a 1 1 89e3 1 1 5929
    1 1 4ea4 1 1 6620 1 1 7121 1 1 6599 1 1 524d 1 1 5f8c 1 1 518d 1 1 65b0 1 1 521d 1 1 7d42 1
    1 751f 1 1 8ca9 1 1 58f0 1 1 5439 1 1 6f14 1 1 6295 1 1 6355 1 1 4e00 1 1 4e09 1 1 904a 1 1
    5de6 1 1 4e2d 1 1 53f3 1 1 6307 1 1 8d70 1 1 6253 1 1 7981 1 1 7a7a 1 1 5408 1 1 6e80 1 1
    6709 1 1 6708 1 1 7533 1 1 5272 1 1 55b6 1 1 914d 5 3 3014 672c 3015 1 3 3014 4e09 3015 1 3
    3014 4e8c 3015 1 3 3014 5b89 3015 1 3 3014 70b9 3015 1 3 3014 6253 3015 1 3 3014 76d7 3015
    1 3 3014 52dd 3015 1 3 3014 6557 3015 8 1 5f97 1 1 53ef 99f 1 30 1 1 31 1 1 32 1 1 33 1 1
    34 1 1 35 1 1 36 1 1 37 1 1 38 1 1 39 fc07 1 4e3d 1 1 4e38 1 1 4e41 1 1 20122 1 1 4f60 1 1
    4fae 1 1 4fbb 1 1 5002 1 1 507a 1 1 5099 1 1 50e7 1 1 50cf 1 1 349e 1 1 2063a 1 1 514d 1 1
    5154 1 1 5164 1 1 5177 1 1 2051c 1 1 34b9 1 1 5167 1 1 518d 1 1 2054b 1 1 5197 1 1 51a4 1 1
    4ecc 1 1 51ac 1 1 51b5 1 1 291df 1 1 51f5 1 1 5203 1 1 34df 1 1 523b 1 1 5246 1 1 5272 1 1
    5277 1 1 3515 1 1 52c7 1 1 52c9 1 1 52e4 1 1 52fa 1 1 5305 1 1 5306 1 1 5317 1 1 5349 1 1
    5351 1 1 535a 1 1 5373 1 1 537d 1 1 537f 1 1 537f 1 1 537f 1 1 20a2c 1 1 7070 1 1 53ca 1 1
    53df 1 1 20b63 1 1 53eb 1 1 53f1 1 1 5406 1 1 549e 1 1 5438 1 1 5448 1 1 5468 1 1 54a2 1 1
    54f6 1 1 5510 1 1 5553 1 1 5563 1 1 5584 1 1 5584 1 1 5599 1 1 55ab 1 1 55b3 1 1 55c2 1 1
    5716 1 1 5606 1 1 5717 1 1 5651 1 1 5674 1 1 5207 1 1 58ee 1 1 57ce 1 1 57f4 1 1 580d 1 1
    578b 1 1 5832 1 1 5831 1 1 58ac 1 1 214e4 1 1 58f2 1 1 58f7 1 1 5906 1 1 591a 1 1 5922 1 1
    5962 1 1 216a8 1 1 216ea 1 1 59ec 1 1 5a1b 1 1 5a27 1 1 59d8 1 1 5a66 1 1 36ee 1 1 36fc 1 1
    5b08 1 1 5b3e 1 1 5b3e 1 1 219c8 1 1 5bc3 1 1 5bd8 1 1 5be7 1 1 5bf3 1 1 21b18 1 1 5bff 1 1
    5c06 1 1 5f53 1 1 5c22 1 1 3781 1 1 5c60 1 1 5c6e 1 1 5cc0 1 1 5c8d 1 1 21de4 1 1 5d43 1 1
    21de6 1 1 5d6e 1 1 5d6b 1 1 5d7c 1 1 5de1 1 1 5de2 1 1 382f 1 1 5dfd 1 1 5e28 1 1 5e3d 1 1
    5e69 1 1 3862 1 1 22183 1 1 387c 1 1 5eb0 1 1 5eb3 1 1 5eb6 1 1 5eca 1 1 2a392 1 1 5efe 1 1
    22331 1 1 22331 1 1 8201 1 1 5f22 1 1 5f22 1 1 38c7 1 1 232b8 1 1 261da 1 1 5f62 1 1 5f6b 1
    1 38e3 1 1 5f9a 1 1 5fcd 1 1 5fd7 1 1 5ff9 1 1 6081 1 1 393a 1 1 391c 1 1 6094 1 1 226d4 1
    1 60c7 1 1 6148 1 1 614c 1 1 614e 1 1 614c 1 1 617a 1 1 618e 1 1 61b2 1 1 61a4 1 1 61af 1 1
    61de 1 1 61f2 1 1 61f6 1 1 6210 1 1 621b 1 1 625d 1 1 62b1 1 1 62d4 1 1 6350 1 1 22b0c 1 1
    633d 1 1 62fc 1 1 6368 1 1 6383 1 1 63e4 1 1 22bf1 1 1 6422 1 1 63c5 1 1 63a9 1 1 3a2e 1 1
    6469 1 1 647e 1 1 649d 1 1 6477 1 1 3a6c 1 1 654f 1 1 656c 1 1 2300a 1 1 65e3 1 1 66f8 1 1
    6649 1 1 3b19 1 1 6691 1 1 3b08 1 1 3ae4 1 1 5192 1 1 5195 1 1 6700 1 1 669c 1 1 80ad 1 1
    43d9 1 1 6717 1 1 671b 1 1 6721 1 1 675e 1 1 6753 1 1 233c3 1 1 3b49 1 1 67fa 1 1 6785 1 1
    6852 1 1 6885 1 1 2346d 1 1 688e 1 1 681f 1 1 6914 1 1 3b9d 1 1 6942 1 1 69a3 1 1 69ea 1 1
    6aa8 1 1 236a3 1 1 6adb 1 1 3c18 1 1 6b21 1 1 238a7 1 1 6b54 1 1 3c4e 1 1 6b72 1 1 6b9f 1 1
    6bba 1 1 6bbb 1 1 23a8d 1 1 21d0b 1 1 23afa 1 1 6c4e 1 1 23cbc 1 1 6cbf 1 1 6ccd 1 1 6c67 1
    1 6d16 1 1 6d3e 1 1 6d77 1 1 6d41 1 1 6d69 1 1 6d78 1 1 6d85 1 1 23d1e 1 1 6d34 1 1 6e2f 1
    1 6e6e 1 1 3d33 1 1 6ecb 1 1 6ec7 1 1 23ed1 1 1 6df9 1 1 6f6e 1 1 23f5e 1 1 23f8e 1 1 6fc6
    1 1 7039 1 1 701e 1 1 701b 1 1 3d96 1 1 704a 1 1 707d 1 1 7077 1 1 70ad 1 1 20525 1 1 7145
    1 1 24263 1 1 719c 1 1 243ab 1 1 7228 1 1 7235 1 1 7250 1 1 24608 1 1 7280 1 1 7295 1 1
    24735 1 1 24814 1 1 737a 1 1 738b 1 1 3eac 1 1 73a5 1 1 3eb8 1 1 3eb8 1 1 7447 1 1 745c 1 1
    7471 1 1 7485 1 1 74ca 1 1 3f1b 1 1 7524 1 1 24c36 1 1 753e 1 1 24c92 1 1 7570 1 1 2219f 1
    1 7610 1 1 24fa1 1 1 24fb8 1 1 25044 1 1 3ffc 1 1 4008 1 1 76f4 1 1 250f3 1 1 250f2 1 1
    25119 1 1 25133 1 1 771e 1 1 771f 1 1 771f 1 1 774a 1 1 4039 1 1 778b 1 1 4046 1 1 4096 1 1
    2541d 1 1 784e 1 1 788c 1 1 78cc 1 1 40e3 1 1 25626 1 1 7956 1 1 2569a 1 1 256c5 1 1 798f 1
    1 79eb 1 1 412f 1 1 7a40 1 1 7a4a 1 1 7a4f 1 1 2597c 1 1 25aa7 1 1 25aa7 1 1 7aee 1 1 4202
    1 1 25bab 1 1 7bc6 1 1 7bc9 1 1 4227 1 1 25c80 1 1 7cd2 1 1 42a0 1 1 7ce8 1 1 7ce3 1 1 7d00
    1 1 25f86 1 1 7d63 1 1 4301 1 1 7dc7 1 1 7e02 1 1 7e45 1 1 4334 1 1 26228 1 1 26247 1 1
    4359 1 1 262d9 1 1 7f7a 1 1 2633e 1 1 7f95 1 1 7ffa 1 1 8005 1 1 264da 1 1 26523 1 1 8060 1
    1 265a8 1 1 8070 1 1 2335f 1 1 43d5 1 1 80b2 1 1 8103 1 1 440b 1 1 813e 1 1 5ab5 1 1 267a7
    1 1 267b5 1 1 23393 1 1 2339c 1 1 8201 1 1 8204 1 1 8f9e 1 1 446b 1 1 8291 1 1 828b 1 1
    829d 1 1 52b3 1 1 82b1 1 1 82b3 1 1 82bd 1 1 82e6 1 1 26b3c 1 1 82e5 1 1 831d 1 1 8363 1 1
    83ad 1 1 8323 1 1 83bd 1 1 83e7 1 1 8457 1 1 8353 1 1 83ca 1 1 83cc 1 1 83dc 1 1 26c36 1 1
    26d6b 1 1 26cd5 1 1 452b 1 1 84f1 1 1 84f3 1 1 8516 1 1 273ca 1 1 8564 1 1 26f2c 1 1 455d 1
    1 4561 1 1 26fb1 1 1 270d2 1 1 456b 1 1 8650 1 1 865c 1 1 8667 1 1 8669 1 1 86a9 1 1 8688 1
    1 870e 1 1 86e2 1 1 8779 1 1 8728 1 1 876b 1 1 8786 1 1 45d7 1 1 87e1 1 1 8801 1 1 45f9 1 1
    8860 1 1 8863 1 1 27667 1 1 88d7 1 1 88de 1 1 4635 1 1 88fa 1 1 34bb 1 1 278ae 1 1 27966 1
    1 46be 1 1 46c7 1 1 8aa0 1 1 8aed 1 1 8b8a 1 1 8c55 1 1 27ca8 1 1 8cab 1 1 8cc1 1 1 8d1b 1
    1 8d77 1 1 27f2f 1 1 20804 1 1 8dcb 1 1 8dbc 1 1 8df0 1 1 208de 1 1 8ed4 1 1 8f38 1 1 285d2
    1 1 285ed 1 1 9094 1 1 90f1 1 1 9111 1 1 2872e 1 1 911b 1 1 9238 1 1 92d7 1 1 92d8 1 1 927c
    1 1 93f9 1 1 9415 1 1 28bfa 1 1 958b 1 1 4995 1 1 95b7 1 1 28d77 1 1 49e6 1 1 96c3 1 1 5db2
    1 1 9723 1 1 29145 1 1 2921a 1 1 4a6e 1 1 4a76 1 1 97e0 1 1 2940a 1 1 4ab2 1 1 29496 1 1
    980b 1 1 980b 1 1 9829 1 1 295b6 1 1 98e2 1 1 4b33 1 1 9929 1 1 99a7 1 1 99c2 1 1 99fe 1 1
    4bce 1 1 29b30 1 1 9b12 1 1 9c40 1 1 9cfd 1 1 4cce 1 1 4ced 1 1 9d67 1 1 2a0ce 1 1 4cf8 1 1
    2a105 1 1 2a20e 1 1 2a291 1 1 9ebb 1 1 4d56 1 1 9ef9 1 1 9efe 1 1 9f05 1 1 9f0f 1 1 9f16 1
    1 9f3b 1 1 2a600"

/-- Entries `gap length class`: ranges of characters with a combining class other than zero. -/
def combiningTable : String :=
  "300 14 e6 1 0 e8 1 3 dc 1 0 e8 1 0 d8 1 4 dc 1 1 ca 1 3 dc 1 1 ca 1 a dc 1 4 1 1 3 dc 1 7
    e6 1 0 f0 1 0 e6 1 2 dc 1 2 e6 1 1 dc 2 2 e6 1 3 dc 1 0 e6 1 0 e8 1 1 dc 1 0 e6 1 0 e9 1 1
    ea 1 0 e9 1 1 ea 1 0 e9 1 c e6 114 4 e6 10a 0 dc 1 3 e6 1 0 dc 1 2 e6 1 0 de 1 0 dc 1 5 e6
    1 5 dc 1 1 e6 1 0 dc 1 1 e6 1 0 de 1 0 e4 1 0 e6 1 0 a 1 0 b 1 0 c 1 0 d 1 0 e 1 0 f 1 0 10
    1 0 11 1 0 12 1 1 13 1 0 14 1 0 15 1 0 16 2 0 17 2 0 18 1 0 19 2 0 e6 1 0 dc 2 0 12 49 7 e6
    1 0 1e 1 0 1f 1 0 20 31 0 1b 1 0 1c 1 0 1d 1 0 1e 1 0 1f 1 0 20 1 0 21 1 0 22 1 1 e6 1 1 dc
    1 4 e6 1 0 dc 1 1 e6 1 0 dc 11 0 23 66 6 e6 3 3 e6 1 0 dc 1 0 e6 3 1 e6 2 0 dc 1 1 e6 1 0
    dc 24 0 24 1f 0 e6 1 0 dc 1 1 e6 1 0 dc 1 1 e6 1 2 dc 1 0 e6 1 1 dc 1 0 e6 1 0 dc 1 2 e6 1
    0 dc 1 0 e6 1 0 dc 1 0 e6 1 0 dc 1 0 e6 1 0 dc 1 1 e6 a1 6 e6 1 0 dc 1 0 e6 a 0 dc 19 3 e6
    2 8 e6 2 2 e6 2 4 e6 2c 2 dc 3d 0 e6 1 2 dc 1 3 e6 2b 4 e6 1 4 dc 1 d e6 2 0 dc 1 1 e6 1 0
    dc 1 1 e6 1 0 dc 1 2 e6 1 2 dc 1 0 1b 1 0 1c 1 0 1d 1 2 e6 1 0 dc 1 1 e6 1 1 dc 1 4 e6 3d 0
    7 11 0 9 4 0 e6 1 0 dc 1 1 e6 68 0 7 11 0 9 31 0 e6 3e 0 7 11 0 9 6f 0 7 11 0 9 6f 0 7 11 0
    9 80 0 9 6f 0 7 11 0 9 8 0 54 1 0 5b 66 0 7 11 0 9 6e 1 9 11 0 9 7d 0 9 6e 1 67 1 0 9 e 3
    6b 6d 1 76 1 0 9 e 3 7a 4d 1 dc 1c 0 dc 2 0 dc 2 0 d8 38 0 81 1 0 82 2 0 84 6 3 82 3 0 82 2
    1 e6 1 0 9 2 1 e6 3f 0 dc 71 0 7 2 1 9 53 0 dc 2d0 2 e6 3b5 1 9 1f 0 9 9e 0 9 b 0 e6 cc 0
    e4 90 0 de 1 0 e6 1 0 dc dc 0 e6 1 0 dc 48 0 9 15 7 e6 3 0 dc 31 4 e6 1 5 dc 1 1 e6 1 0 dc
    2 1 dc 1 1 e6 1 1 dc 1 4 e6 1 0 dc 1 3 e6 66 0 7 10 0 9 27 0 e6 1 0 dc 1 6 e6 37 1 9 3b 0 7
    c 1 9 44 0 7 99 2 e6 2 0 1 1 4 dc 1 1 e6 1 3 dc 1 0 e6 2 6 1 5 0 dc 7 0 e6 4 1 e6 c7 1 e6 1
    0 dc 1 6 e6 1 0 dc 1 1 e6 1 0 ea 1 0 d6 1 0 dc 1 0 ca 1 24 e6 1 0 e8 1 1 e4 1 0 dc 1 0 da 1
    0 e6 1 0 e9 1 0 dc 1 0 e6 1 0 dc 2d1 1 e6 1 1 1 1 3 e6 1 2 1 1 1 e6 5 0 e6 4 1 1 1 0 e6 1 0
    dc 1 0 e6 1 1 1 1 3 dc 1 0 e6 bff 2 e6 8e 0 9 61 1f e6 22b 0 da 1 0 e4 1 0 e8 1 0 de 1 1 e0
    6a 1 8 75d5 0 e6 5 9 e6 21 1 e6 51 1 e6 115 0 9 26 0 9 98 0 9 1c 11 e6 3a 2 dc 26 0 9 60 0
    7 d 0 9 f0 0 e6 2 1 e6 1 0 dc 3 1 e6 6 1 e6 2 0 e6 35 0 9 f7 0 9 4f31 0 1a 302 6 e6 1 6 dc
    1 1 e6 3ce 0 dc e3 0 dc 96 4 e6 693 0 dc 2 0 e6 29 0 e6 1 0 1 1 0 dc 5 0 9 a6 0 e6 1 0 dc
    23e 3 e6 184 1 e6 9a 1 dc 1 2 e6 1 0 dc 1 0 e6 1 3 dc 32 0 e6 1 0 dc 1 0 e6 1 0 dc c1 0 9
    2a 0 9 f 0 9 3a 0 9 1 0 7 46 2 e6 31 1 9 3f 0 7 4d 0 9 a 0 7 6b 0 9 1 0 7 b3 0 7 1 0 9 51 1
    7 11 0 9 19 6 e6 4 4 e6 ce 0 9 4 0 7 18 0 e6 64 0 9 1 0 7 fc 0 9 1 0 7 7f 0 9 77 0 9 1 0 7
    74 0 9 10e 0 9 1 0 7 103 1 9 5 0 7 9d 0 9 54 0 9 13 0 9 52 0 9 1a6 0 9 103 0 7 2 1 9 52 0 9
    4d59 4 1 3c 6 e6 4ba 1 6 4cad 0 1 14c7 1 d8 1 2 1 4 0 e2 1 4 d8 9 7 dc 3 4 e6 1 1 dc 1f 3
    e6 95 2 e6 dbc 6 e6 2 10 e6 3 6 e6 2 1 e6 2 4 e6 106 6 e6 178 0 e6 3e 3 e6 5e1 6 dc 6e 5 e6
    1 0 7"

/-- Entries `first second composed`. -/
def compositionTable : String :=
  "3c 338 226e 3d 338 2260 3e 338 226f 41 300 c0 41 301 c1 41 302 c2 41 303 c3 41 304 100 41
    306 102 41 307 226 41 308 c4 41 309 1ea2 41 30a c5 41 30c 1cd 41 30f 200 41 311 202 41 323
    1ea0 41 325 1e00 41 328 104 42 307 1e02 42 323 1e04 42 331 1e06 43 301 106 43 302 108 43
    307 10a 43 30c 10c 43 327 c7 44 307 1e0a 44 30c 10e 44 323 1e0c 44 327 1e10 44 32d 1e12 44
    331 1e0e 45 300 c8 45 301 c9 45 302 ca 45 303 1ebc 45 304 112 45 306 114 45 307 116 45 308
    cb 45 309 1eba 45 30c 11a 45 30f 204 45 311 206 45 323 1eb8 45 327 228 45 328 118 45 32d
    1e18 45 330 1e1a 46 307 1e1e 47 301 1f4 47 302 11c 47 304 1e20 47 306 11e 47 307 120 47 30c
    1e6 47 327 122 48 302 124 48 307 1e22 48 308 1e26 48 30c 21e 48 323 1e24 48 327 1e28 48 32e
    1e2a 49 300 cc 49 301 cd 49 302 ce 49 303 128 49 304 12a 49 306 12c 49 307 130 49 308 cf 49
    309 1ec8 49 30c 1cf 49 30f 208 49 311 20a 49 323 1eca 49 328 12e 49 330 1e2c 4a 302 134 4b
    301 1e30 4b 30c 1e8 4b 323 1e32 4b 327 136 4b 331 1e34 4c 301 139 4c 30c 13d 4c 323 1e36 4c
    327 13b 4c 32d 1e3c 4c 331 1e3a 4d 301 1e3e 4d 307 1e40 4d 323 1e42 4e 300 1f8 4e 301 143
    4e 303 d1 4e 307 1e44 4e 30c 147 4e 323 1e46 4e 327 145 4e 32d 1e4a 4e 331 1e48 4f 300 d2
    4f 301 d3 4f 302 d4 4f 303 d5 4f 304 14c 4f 306 14e 4f 307 22e 4f 308 d6 4f 309 1ece 4f 30b
    150 4f 30c 1d1 4f 30f 20c 4f 311 20e 4f 31b 1a0 4f 323 1ecc 4f 328 1ea 50 301 1e54 50 307
    1e56 52 301 154 52 307 1e58 52 30c 158 52 30f 210 52 311 212 52 323 1e5a 52 327 156 52 331
    1e5e 53 301 15a 53 302 15c 53 307 1e60 53 30c 160 53 323 1e62 53 326 218 53 327 15e 54 307
    1e6a 54 30c 164 54 323 1e6c 54 326 21a 54 327 162 54 32d 1e70 54 331 1e6e 55 300 d9 55 301
    da 55 302 db 55 303 168 55 304 16a 55 306 16c 55 308 dc 55 309 1ee6 55 30a 16e 55 30b 170
    55 30c 1d3 55 30f 214 55 311 216 55 31b 1af 55 323 1ee4 55 324 1e72 55 328 172 55 32d 1e76
    55 330 1e74 56 303 1e7c 56 323 1e7e 57 300 1e80 57 301 1e82 57 302 174 57 307 1e86 57 308
    1e84 57 323 1e88 58 307 1e8a 58 308 1e8c 59 300 1ef2 59 301 dd 59 302 176 59 303 1ef8 59
    304 232 59 307 1e8e 59 308 178 59 309 1ef6 59 323 1ef4 5a 301 179 5a 302 1e90 5a 307 17b 5a
    30c 17d 5a 323 1e92 5a 331 1e94 61 300 e0 61 301 e1 61 302 e2 61 303 e3 61 304 101 61 306
    103 61 307 227 61 308 e4 61 309 1ea3 61 30a e5 61 30c 1ce 61 30f 201 61 311 203 61 323 1ea1
    61 325 1e01 61 328 105 62 307 1e03 62 323 1e05 62 331 1e07 63 301 107 63 302 109 63 307 10b
    63 30c 10d 63 327 e7 64 307 1e0b 64 30c 10f 64 323 1e0d 64 327 1e11 64 32d 1e13 64 331 1e0f
    65 300 e8 65 301 e9 65 302 ea 65 303 1ebd 65 304 113 65 306 115 65 307 117 65 308 eb 65 309
    1ebb 65 30c 11b 65 30f 205 65 311 207 65 323 1eb9 65 327 229 65 328 119 65 32d 1e19 65 330
    1e1b 66 307 1e1f 67 301 1f5 67 302 11d 67 304 1e21 67 306 11f 67 307 121 67 30c 1e7 67 327
    123 68 302 125 68 307 1e23 68 308 1e27 68 30c 21f 68 323 1e25 68 327 1e29 68 32e 1e2b 68
    331 1e96 69 300 ec 69 301 ed 69 302 ee 69 303 129 69 304 12b 69 306 12d 69 308 ef 69 309
    1ec9 69 30c 1d0 69 30f 209 69 311 20b 69 323 1ecb 69 328 12f 69 330 1e2d 6a 302 135 6a 30c
    1f0 6b 301 1e31 6b 30c 1e9 6b 323 1e33 6b 327 137 6b 331 1e35 6c 301 13a 6c 30c 13e 6c 323
    1e37 6c 327 13c 6c 32d 1e3d 6c 331 1e3b 6d 301 1e3f 6d 307 1e41 6d 323 1e43 6e 300 1f9 6e
    301 144 6e 303 f1 6e 307 1e45 6e 30c 148 6e 323 1e47 6e 327 146 6e 32d 1e4b 6e 331 1e49 6f
    300 f2 6f 301 f3 6f 302 f4 6f 303 f5 6f 304 14d 6f 306 14f 6f 307 22f 6f 308 f6 6f 309 1ecf
    6f 30b 151 6f 30c 1d2 6f 30f 20d 6f 311 20f 6f 31b 1a1 6f 323 1ecd 6f 328 1eb 70 301 1e55
    70 307 1e57 72 301 155 72 307 1e59 72 30c 159 72 30f 211 72 311 213 72 323 1e5b 72 327 157
    72 331 1e5f 73 301 15b 73 302 15d 73 307 1e61 73 30c 161 73 323 1e63 73 326 219 73 327 15f
    74 307 1e6b 74 308 1e97 74 30c 165 74 323 1e6d 74 326 21b 74 327 163 74 32d 1e71 74 331
    1e6f 75 300 f9 75 301 fa 75 302 fb 75 303 169 75 304 16b 75 306 16d 75 308 fc 75 309 1ee7
    75 30a 16f 75 30b 171 75 30c 1d4 75 30f 215 75 311 217 75 31b 1b0 75 323 1ee5 75 324 1e73
    75 328 173 75 32d 1e77 75 330 1e75 76 303 1e7d 76 323 1e7f 77 300 1e81 77 301 1e83 77 302
    175 77 307 1e87 77 308 1e85 77 30a 1e98 77 323 1e89 78 307 1e8b 78 308 1e8d 79 300 1ef3 79
    301 fd 79 302 177 79 303 1ef9 79 304 233 79 307 1e8f 79 308 ff 79 309 1ef7 79 30a 1e99 79
    323 1ef5 7a 301 17a 7a 302 1e91 7a 307 17c 7a 30c 17e 7a 323 1e93 7a 331 1e95 a8 300 1fed
    a8 301 385 a8 342 1fc1 c2 300 1ea6 c2 301 1ea4 c2 303 1eaa c2 309 1ea8 c4 304 1de c5 301
    1fa c6 301 1fc c6 304 1e2 c7 301 1e08 ca 300 1ec0 ca 301 1ebe ca 303 1ec4 ca 309 1ec2 cf
    301 1e2e d4 300 1ed2 d4 301 1ed0 d4 303 1ed6 d4 309 1ed4 d5 301 1e4c d5 304 22c d5 308 1e4e
    d6 304 22a d8 301 1fe dc 300 1db dc 301 1d7 dc 304 1d5 dc 30c 1d9 e2 300 1ea7 e2 301 1ea5
    e2 303 1eab e2 309 1ea9 e4 304 1df e5 301 1fb e6 301 1fd e6 304 1e3 e7 301 1e09 ea 300 1ec1
    ea 301 1ebf ea 303 1ec5 ea 309 1ec3 ef 301 1e2f f4 300 1ed3 f4 301 1ed1 f4 303 1ed7 f4 309
    1ed5 f5 301 1e4d f5 304 22d f5 308 1e4f f6 304 22b f8 301 1ff fc 300 1dc fc 301 1d8 fc 304
    1d6 fc 30c 1da 102 300 1eb0 102 301 1eae 102 303 1eb4 102 309 1eb2 103 300 1eb1 103 301
    1eaf 103 303 1eb5 103 309 1eb3 112 300 1e14 112 301 1e16 113 300 1e15 113 301 1e17 14c 300
    1e50 14c 301 1e52 14d 300 1e51 14d 301 1e53 15a 307 1e64 15b 307 1e65 160 307 1e66 161 307
    1e67 168 301 1e78 169 301 1e79 16a 308 1e7a 16b 308 1e7b 17f 307 1e9b 1a0 300 1edc 1a0 301
    1eda 1a0 303 1ee0 1a0 309 1ede 1a0 323 1ee2 1a1 300 1edd 1a1 301 1edb 1a1 303 1ee1 1a1 309
    1edf 1a1 323 1ee3 1af 300 1eea 1af 301 1ee8 1af 303 1eee 1af 309 1eec 1af 323 1ef0 1b0 300
    1eeb 1b0 301 1ee9 1b0 303 1eef 1b0 309 1eed 1b0 323 1ef1 1b7 30c 1ee 1ea 304 1ec 1eb 304
    1ed 226 304 1e0 227 304 1e1 228 306 1e1c 229 306 1e1d 22e 304 230 22f 304 231 292 30c 1ef
    391 300 1fba 391 301 386 391 304 1fb9 391 306 1fb8 391 313 1f08 391 314 1f09 391 345 1fbc
    395 300 1fc8 395 301 388 395 313 1f18 395 314 1f19 397 300 1fca 397 301 389 397 313 1f28
    397 314 1f29 397 345 1fcc 399 300 1fda 399 301 38a 399 304 1fd9 399 306 1fd8 399 308 3aa
    399 313 1f38 399 314 1f39 39f 300 1ff8 39f 301 38c 39f 313 1f48 39f 314 1f49 3a1 314 1fec
    3a5 300 1fea 3a5 301 38e 3a5 304 1fe9 3a5 306 1fe8 3a5 308 3ab 3a5 314 1f59 3a9 300 1ffa
    3a9 301 38f 3a9 313 1f68 3a9 314 1f69 3a9 345 1ffc 3ac 345 1fb4 3ae 345 1fc4 3b1 300 1f70
    3b1 301 3ac 3b1 304 1fb1 3b1 306 1fb0 3b1 313 1f00 3b1 314 1f01 3b1 342 1fb6 3b1 345 1fb3
    3b5 300 1f72 3b5 301 3ad 3b5 313 1f10 3b5 314 1f11 3b7 300 1f74 3b7 301 3ae 3b7 313 1f20
    3b7 314 1f21 3b7 342 1fc6 3b7 345 1fc3 3b9 300 1f76 3b9 301 3af 3b9 304 1fd1 3b9 306 1fd0
    3b9 308 3ca 3b9 313 1f30 3b9 314 1f31 3b9 342 1fd6 3bf 300 1f78 3bf 301 3cc 3bf 313 1f40
    3bf 314 1f41 3c1 313 1fe4 3c1 314 1fe5 3c5 300 1f7a 3c5 301 3cd 3c5 304 1fe1 3c5 306 1fe0
    3c5 308 3cb 3c5 313 1f50 3c5 314 1f51 3c5 342 1fe6 3c9 300 1f7c 3c9 301 3ce 3c9 313 1f60
    3c9 314 1f61 3c9 342 1ff6 3c9 345 1ff3 3ca 300 1fd2 3ca 301 390 3ca 342 1fd7 3cb 300 1fe2
    3cb 301 3b0 3cb 342 1fe7 3ce 345 1ff4 3d2 301 3d3 3d2 308 3d4 406 308 407 410 306 4d0 410
    308 4d2 413 301 403 415 300 400 415 306 4d6 415 308 401 416 306 4c1 416 308 4dc 417 308 4de
    418 300 40d 418 304 4e2 418 306 419 418 308 4e4 41a 301 40c 41e 308 4e6 423 304 4ee 423 306
    40e 423 308 4f0 423 30b 4f2 427 308 4f4 42b 308 4f8 42d 308 4ec 430 306 4d1 430 308 4d3 433
    301 453 435 300 450 435 306 4d7 435 308 451 436 306 4c2 436 308 4dd 437 308 4df 438 300 45d
    438 304 4e3 438 306 439 438 308 4e5 43a 301 45c 43e 308 4e7 443 304 4ef 443 306 45e 443 308
    4f1 443 30b 4f3 447 308 4f5 44b 308 4f9 44d 308 4ed 456 308 457 474 30f 476 475 30f 477 4d8
    308 4da 4d9 308 4db 4e8 308 4ea 4e9 308 4eb 627 653 622 627 654 623 627 655 625 648 654 624
    64a 654 626 6c1 654 6c2 6d2 654 6d3 6d5 654 6c0 928 93c 929 930 93c 931 933 93c 934 9c7 9be
    9cb 9c7 9d7 9cc b47 b3e b4b b47 b56 b48 b47 b57 b4c b92 bd7 b94 bc6 bbe bca bc6 bd7 bcc bc7
    bbe bcb c46 c56 c48 cbf cd5 cc0 cc6 cc2 cca cc6 cd5 cc7 cc6 cd6 cc8 cca cd5 ccb d46 d3e d4a
    d46 d57 d4c d47 d3e d4b dd9 dca dda dd9 dcf ddc dd9 ddf dde ddc dca ddd 1025 102e 1026 1b05
    1b35 1b06 1b07 1b35 1b08 1b09 1b35 1b0a 1b0b 1b35 1b0c 1b0d 1b35 1b0e 1b11 1b35 1b12 1b3a
    1b35 1b3b 1b3c 1b35 1b3d 1b3e 1b35 1b40 1b3f 1b35 1b41 1b42 1b35 1b43 1e36 304 1e38 1e37
    304 1e39 1e5a 304 1e5c 1e5b 304 1e5d 1e62 307 1e68 1e63 307 1e69 1ea0 302 1eac 1ea0 306
    1eb6 1ea1 302 1ead 1ea1 306 1eb7 1eb8 302 1ec6 1eb9 302 1ec7 1ecc 302 1ed8 1ecd 302 1ed9
    1f00 300 1f02 1f00 301 1f04 1f00 342 1f06 1f00 345 1f80 1f01 300 1f03 1f01 301 1f05 1f01
    342 1f07 1f01 345 1f81 1f02 345 1f82 1f03 345 1f83 1f04 345 1f84 1f05 345 1f85 1f06 345
    1f86 1f07 345 1f87 1f08 300 1f0a 1f08 301 1f0c 1f08 342 1f0e 1f08 345 1f88 1f09 300 1f0b
    1f09 301 1f0d 1f09 342 1f0f 1f09 345 1f89 1f0a 345 1f8a 1f0b 345 1f8b 1f0c 345 1f8c 1f0d
    345 1f8d 1f0e 345 1f8e 1f0f 345 1f8f 1f10 300 1f12 1f10 301 1f14 1f11 300 1f13 1f11 301
    1f15 1f18 300 1f1a 1f18 301 1f1c 1f19 300 1f1b 1f19 301 1f1d 1f20 300 1f22 1f20 301 1f24
    1f20 342 1f26 1f20 345 1f90 1f21 300 1f23 1f21 301 1f25 1f21 342 1f27 1f21 345 1f91 1f22
    345 1f92 1f23 345 1f93 1f24 345 1f94 1f25 345 1f95 1f26 345 1f96 1f27 345 1f97 1f28 300
    1f2a 1f28 301 1f2c 1f28 342 1f2e 1f28 345 1f98 1f29 300 1f2b 1f29 301 1f2d 1f29 342 1f2f
    1f29 345 1f99 1f2a 345 1f9a 1f2b 345 1f9b 1f2c 345 1f9c 1f2d 345 1f9d 1f2e 345 1f9e 1f2f
    345 1f9f 1f30 300 1f32 1f30 301 1f34 1f30 342 1f36 1f31 300 1f33 1f31 301 1f35 1f31 342
    1f37 1f38 300 1f3a 1f38 301 1f3c 1f38 342 1f3e 1f39 300 1f3b 1f39 301 1f3d 1f39 342 1f3f
    1f40 300 1f42 1f40 301 1f44 1f41 300 1f43 1f41 301 1f45 1f48 300 1f4a 1f48 301 1f4c 1f49
    300 1f4b 1f49 301 1f4d 1f50 300 1f52 1f50 301 1f54 1f50 342 1f56 1f51 300 1f53 1f51 301
    1f55 1f51 342 1f57 1f59 300 1f5b 1f59 301 1f5d 1f59 342 1f5f 1f60 300 1f62 1f60 301 1f64
    1f60 342 1f66 1f60 345 1fa0 1f61 300 1f63 1f61 301 1f65 1f61 342 1f67 1f61 345 1fa1 1f62
    345 1fa2 1f63 345 1fa3 1f64 345 1fa4 1f65 345 1fa5 1f66 345 1fa6 1f67 345 1fa7 1f68 300
    1f6a 1f68 301 1f6c 1f68 342 1f6e 1f68 345 1fa8 1f69 300 1f6b 1f69 301 1f6d 1f69 342 1f6f
    1f69 345 1fa9 1f6a 345 1faa 1f6b 345 1fab 1f6c 345 1fac 1f6d 345 1fad 1f6e 345 1fae 1f6f
    345 1faf 1f70 345 1fb2 1f74 345 1fc2 1f7c 345 1ff2 1fb6 345 1fb7 1fbf 300 1fcd 1fbf 301
    1fce 1fbf 342 1fcf 1fc6 345 1fc7 1ff6 345 1ff7 1ffe 300 1fdd 1ffe 301 1fde 1ffe 342 1fdf
    2190 338 219a 2192 338 219b 2194 338 21ae 21d0 338 21cd 21d2 338 21cf 21d4 338 21ce 2203
    338 2204 2208 338 2209 220b 338 220c 2223 338 2224 2225 338 2226 223c 338 2241 2243 338
    2244 2245 338 2247 2248 338 2249 224d 338 226d 2261 338 2262 2264 338 2270 2265 338 2271
    2272 338 2274 2273 338 2275 2276 338 2278 2277 338 2279 227a 338 2280 227b 338 2281 227c
    338 22e0 227d 338 22e1 2282 338 2284 2283 338 2285 2286 338 2288 2287 338 2289 2291 338
    22e2 2292 338 22e3 22a2 338 22ac 22a8 338 22ad 22a9 338 22ae 22ab 338 22af 22b2 338 22ea
    22b3 338 22eb 22b4 338 22ec 22b5 338 22ed 3046 3099 3094 304b 3099 304c 304d 3099 304e 304f
    3099 3050 3051 3099 3052 3053 3099 3054 3055 3099 3056 3057 3099 3058 3059 3099 305a 305b
    3099 305c 305d 3099 305e 305f 3099 3060 3061 3099 3062 3064 3099 3065 3066 3099 3067 3068
    3099 3069 306f 3099 3070 306f 309a 3071 3072 3099 3073 3072 309a 3074 3075 3099 3076 3075
    309a 3077 3078 3099 3079 3078 309a 307a 307b 3099 307c 307b 309a 307d 309d 3099 309e 30a6
    3099 30f4 30ab 3099 30ac 30ad 3099 30ae 30af 3099 30b0 30b1 3099 30b2 30b3 3099 30b4 30b5
    3099 30b6 30b7 3099 30b8 30b9 3099 30ba 30bb 3099 30bc 30bd 3099 30be 30bf 3099 30c0 30c1
    3099 30c2 30c4 3099 30c5 30c6 3099 30c7 30c8 3099 30c9 30cf 3099 30d0 30cf 309a 30d1 30d2
    3099 30d3 30d2 309a 30d4 30d5 3099 30d6 30d5 309a 30d7 30d8 3099 30d9 30d8 309a 30da 30db
    3099 30dc 30db 309a 30dd 30ef 3099 30f7 30f0 3099 30f8 30f1 3099 30f9 30f2 3099 30fa 30fd
    3099 30fe 11099 110ba 1109a 1109b 110ba 1109c 110a5 110ba 110ab 11131 11127 1112e 11132
    11127 1112f 11347 1133e 1134b 11347 11357 1134c 114b9 114b0 114bc 114b9 114ba 114bb 114b9
    114bd 114be 115b8 115af 115ba 115b9 115af 115bb 11935 11930 11938"

end LiveMarkdown.Text
